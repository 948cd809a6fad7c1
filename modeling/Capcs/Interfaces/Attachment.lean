import Capcs.Interfaces.Claims
import Capcs.Keyed.Mirror
import Capcs.Records.Made
import Capcs.Webhook.Admission

/-!
# Capcs.Interfaces.Attachment — a router is attached to a network at most once

The spec says which networks a router is attached to by the names of the networks, and the API
wants their UUIDs. So attaches to distinct networks of the spec are attaches to distinct networks
of the project only if no network of the project goes by two names, and likewise for routers. A
`Naming` is such an assignment of names. A normal pass whose spec, status and replies keep to one
requests no attach twice, and none that the router it has read already has
(`reconcileNormal_once`); the loop over the interfaces cannot see the former by itself, since it
looks at the interfaces the router had before the loop.
-/

namespace Capcs.Interfaces

open Cloudscale Controller
open Readiness (CallEvent Trace)
open Records (createResource_ends)
open Webhook (UniqueKeys)
open Interaction (Proc Frame New history history_perform)
open Interaction.Contract

/-! ## Names -/

/-- The names that networks and routers of the project go by in a cluster, by UUID, and the
networks that interfaces are on. -/
structure Naming where
  network : String → String
  router : String → String
  attachedTo : String → String

/-- The interfaces of a router are on the networks they are shown with. -/
def Naming.Shown (N : Naming) (r : Router) : Prop :=
  ∀ i ∈ r.interfaces, N.attachedTo i.uuid = i.network

/-- What the API answers: a resource that is asked for by UUID has that UUID, one that is found or
created by a tag goes by the name in the tag, and an interface is on one network. -/
def Naming.Agrees (N : Naming) : (op : Op) → op.Reply → Prop
  | .get .network id, .ok n => n.uuid = id
  | .list .network tags, .ok ns => ∀ n ∈ ns, ∀ tag ∈ tags, N.network n.uuid = tag.2
  | .create .network req, .ok n => ∀ tag ∈ req.tags, N.network n.uuid = tag.2
  | .get .router id, .ok r => r.uuid = id ∧ N.Shown r
  | .list .router tags, .ok rs => ∀ r ∈ rs, (∀ tag ∈ tags, N.router r.uuid = tag.2) ∧ N.Shown r
  | .create .router req, .ok r => (∀ tag ∈ req.tags, N.router r.uuid = tag.2) ∧ N.Shown r
  | .createInterface _ req, .ok i => N.attachedTo i.uuid = req.network
  | _, _ => True

/-- The UUIDs in the spec go by the names of the entries they are in. -/
structure Naming.Fits (N : Naming) (spec : CloudscaleClusterSpec) : Prop where
  networks : ∀ n ∈ spec.networks, n.uuid ≠ "" → N.network n.uuid = n.name
  routers : ∀ r ∈ spec.routers, r.uuid ≠ "" → N.router r.uuid = r.name

/-- So do the UUIDs in the entry of a router. -/
structure RouterNamed (N : Naming) (rs : RouterStatus) : Prop where
  router : N.router rs.routerID = rs.name
  keys : (rs.interfaces.map (·.network)).Nodup
  interfaces : ∀ i ∈ rs.interfaces, i.interfaceID ≠ "" →
    N.network (N.attachedTo i.interfaceID) = i.network

/-- And all in a status. -/
structure StatusNamed (N : Naming) (s : CloudscaleClusterStatus) : Prop where
  networks : ∀ ns ∈ s.networks, N.network ns.networkID = ns.name
  routers : ∀ rs ∈ s.routers, RouterNamed N rs

/-- No two interface entries of a router have the same ID. -/
def EntriesDiffer (s : CloudscaleClusterStatus) : Prop :=
  ∀ rs ∈ s.routers, ((rs.interfaces.map (·.interfaceID)).filter (· ≠ "")).Nodup

instance (s : CloudscaleClusterStatus) : Decidable (EntriesDiffer s) :=
  inferInstanceAs (Decidable (∀ rs ∈ s.routers, _))

variable {N : Naming} {c c' : CloudscaleCluster} {s s' : CloudscaleClusterStatus} {h h' : Trace}
  {r : RouterSpec} {router : Router} {ns : NetworkStatus} {iface : RouterInterfaceSpec}
  {networkID name : String} {e : CallEvent} (cluster : Cluster)

theorem StatusNamed.empty (N : Naming) : StatusNamed N {} :=
  ⟨fun _ hns => absurd hns List.not_mem_nil, fun _ hrs => absurd hrs List.not_mem_nil⟩

theorem StatusNamed.congr (hs : StatusNamed N s) (hnet : s'.networks = s.networks)
    (hrouters : s'.routers = s.routers) : StatusNamed N s' :=
  ⟨hnet ▸ hs.networks, hrouters ▸ hs.routers⟩

theorem StatusNamed.network (hs : StatusNamed N s) (hns : s.getNetworkStatus name = some ns) :
    N.network ns.networkID = name :=
  (hs.networks ns (List.mem_of_find?_eq_some hns)).trans (name_of_getNetworkStatus hns)

/-- Entries are for distinct networks, and each has an interface on its own. -/
theorem StatusNamed.differ (hs : StatusNamed N s) : EntriesDiffer s := by
  intro rs hrs
  obtain ⟨-, hkeys, hnamed⟩ := hs.routers rs hrs
  rw [List.filter_map]
  refine .of_map (fun id => N.network (N.attachedTo id)) ?_
  rw [List.map_map]
  have hsame : (rs.interfaces.filter fun i => i.interfaceID ≠ "").map
      (fun i => N.network (N.attachedTo i.interfaceID)) =
        (rs.interfaces.filter fun i => i.interfaceID ≠ "").map (·.network) := by
    refine List.map_congr_left fun i hi => ?_
    obtain ⟨hi, hid⟩ := List.mem_filter.mp hi
    exact hnamed i hi (by simpa using hid)
  have hnodup : ((rs.interfaces.filter fun i => i.interfaceID ≠ "").map (·.network)).Nodup :=
    (List.filter_sublist.map _).nodup hkeys
  exact hsame ▸ hnodup

/-! ## Writing entries -/

theorem StatusNamed.setNetwork (hs : StatusNamed N c.status) (hname : N.network networkID = name)
    (subnetID cidr : String) (managed : Bool) (mtu : Int) :
    StatusNamed N (setNetworkStatus name networkID subnetID cidr managed mtu c).status := by
  refine ⟨fun ns hns => ?_, hs.routers⟩
  rcases Keyed.mem_upsertFirst hns with hns | rfl | ⟨ns, -, heq, rfl⟩
  · exact hs.networks ns hns
  · exact hname
  · exact hname.trans (of_decide_eq_true heq).symm

theorem StatusNamed.setRouter (hs : StatusNamed N c.status) {id : String}
    (hname : N.router id = r.name) :
    StatusNamed N (setRouterStatus r id c).status := by
  refine ⟨hs.networks, fun rs hrs => ?_⟩
  rcases Keyed.mem_upsertFirst hrs with hrs | rfl | ⟨old, hold, heq, rfl⟩
  · exact hs.routers rs hrs
  · exact ⟨hname, List.nodup_nil, fun _ hi => absurd hi List.not_mem_nil⟩
  · obtain ⟨-, hkeys, hnamed⟩ := hs.routers old hold
    exact ⟨hname.trans (of_decide_eq_true heq).symm, hkeys, hnamed⟩

theorem RouterNamed.upsert {rs : RouterStatus} (hrs : RouterNamed N rs) {network id : String}
    (hid : id ≠ "" → N.network (N.attachedTo id) = network) (managed : Bool) :
    RouterNamed N (upsertInterface network id managed rs) := by
  have hkeys : ((upsertInterface network id managed rs).interfaces.map (·.network)).Nodup := by
    refine Keyed.nodup_upsertFirst ?_ ?_ hrs.keys
    · exact fun _ => rfl
    · rfl
  refine ⟨hrs.router, hkeys, fun i hi hne => ?_⟩
  rcases Keyed.mem_upsertFirst hi with hi | rfl | ⟨i, -, heq, rfl⟩
  · exact hrs.interfaces i hi hne
  · exact hid hne
  · exact (hid hne).trans (of_decide_eq_true heq).symm

theorem StatusNamed.setInterface (hs : StatusNamed N c.status) {network id : String}
    (hid : id ≠ "" → N.network (N.attachedTo id) = network) (name : String) (managed : Bool) :
    StatusNamed N (setRouterInterfaceStatus name network id managed c).status := by
  refine ⟨hs.networks, fun rs hrs => ?_⟩
  rcases Keyed.mem_updateFirst hrs with hrs | ⟨old, hold, -, rfl⟩
  · exact hs.routers rs hrs
  · exact (hs.routers old hold).upsert hid managed

/-! ## Attaches -/

/-- The router and the network that a request attaches to each other. -/
def attachOf : Op → Option (String × String)
  | .createInterface router req => some (router, req.network)
  | _ => none

/-- The routers in a reply. -/
def routersIn : (op : Op) → op.Reply → List Router
  | .get .router _, .ok r => [r]
  | .list .router _, .ok rs => rs
  | .create .router _, .ok r => [r]
  | _, _ => []

/-- A router as it was read last. -/
def lastRead (uuid : String) (h : Trace) : Option Router :=
  ((h.flatMap fun e => routersIn e.op e.reply).filter fun r => r.uuid = uuid).getLast?

/-- The router is not attached to the network: it was not when it was read, and nothing of the
sort has been requested since the pass began. -/
structure Unattached (router network : String) (h : Trace) : Prop where
  read : ∀ r ∈ lastRead router h, ∀ i ∈ r.interfaces, i.network ≠ network
  requested : ∀ e ∈ h, attachOf e.op ≠ some (router, network)

/-- Every attach finds the router and the network unattached. -/
def AttachesOnce (tr : Trace) : Prop :=
  ∀ pre e post router network, tr = pre ++ e :: post → attachOf e.op = some (router, network) →
    Unattached router network pre

theorem AttachesOnce.nil : AttachesOnce [] := fun pre e post _ _ heq => by simp at heq

theorem AttachesOnce.snoc (hh : AttachesOnce h)
    (he : ∀ router network, attachOf e.op = some (router, network) → Unattached router network h) :
    AttachesOnce (h ++ [e]) := by
  intro pre e' post router network heq hattach
  rcases List.eq_nil_or_concat post with rfl | ⟨post, last, rfl⟩
  · obtain ⟨rfl, hlast⟩ := List.append_inj' heq rfl
    obtain rfl : e = e' := List.singleton_inj.mp hlast
    exact he router network hattach
  · rw [List.concat_eq_append, ← List.cons_append, ← List.append_assoc] at heq
    exact hh pre e' post router network (List.append_inj' heq rfl).1 hattach

/-- Requests that attach nothing. -/
theorem AttachesOnce.quiet (hh : AttachesOnce h) (hnew : New (fun e => attachOf e.op = none) h h') :
    AttachesOnce h' := by
  obtain ⟨t, rfl, ht⟩ := hnew
  induction t generalizing h with
  | nil => simpa using hh
  | cons e t ih =>
      obtain ⟨he, ht⟩ := List.forall_mem_cons.mp ht
      have hsnoc : AttachesOnce (h ++ [e]) := by
        refine hh.snoc fun _ _ hattach => ?_
        rw [he] at hattach
        cases hattach
      rw [List.append_cons]
      exact ih hsnoc ht

theorem attachOf_about {part : Part} (hpart : part ≠ .router) {op : Op} (hop : About part op) :
    attachOf op = none := by
  cases op with
  | createInterface =>
      rcases hop with hop | hop
      · exact absurd hop.symm hpart
      · cases hop
  | _ => rfl

theorem attachOf_lookup {op : Op} (hop : IsLookup op) : attachOf op = none := by
  cases op with
  | get | list => rfl
  | _ => exact hop.elim

/-- The last reply shows the router. -/
theorem lastRead_snoc (he : routersIn e.op e.reply = [router]) :
    lastRead router.uuid (h ++ [e]) = some router := by
  simp [lastRead, he]

theorem lastRead_other (he : routersIn e.op e.reply = []) (uuid : String) :
    lastRead uuid (h ++ [e]) = lastRead uuid h := by
  simp [lastRead, he]

/-! ## The network step -/

/-- The step keeps to the names. -/
abbrev KeepsNames {α : Type} (N : Naming) (m : ClusterM α) : Prop :=
  (history N.Agrees).Preserves (fun c _ => StatusNamed N c.status) m

theorem resolveNetwork_named {n : NetworkSpec}
    (hcurrent : networkID ≠ "" → N.network networkID = n.name) :
    (history N.Agrees).wpc
      (fun out _ _ => ∀ network id, out = .ok (.ok (network, id)) → N.network id = n.name)
      (resolveNetwork n networkID (networkTags cluster n.name)) c h := by
  rw [resolveNetwork, wpc_read_bind]
  refine wpc_seq ensureResource_found ?_
  rintro (err | ⟨network, id⟩) c₁ h₁ hfound
  · exact fun _ _ hout => by cases hout
  simp only [after_ok, wpc_ite]
  split
  · next hid =>
    rintro _ _ ⟨⟩
    cases hfound _ _ rfl hid with
    | get hid => exact hcurrent hid
    | list hgood => exact hgood _ (List.mem_singleton.mpr rfl) _ (List.mem_singleton.mpr rfl)
  · refine wpc_seq (createResource_ends (k := .network)) ?_
    rintro out _ _ ⟨rfl, reply, hgood, rfl, hends⟩
    cases reply with
    | ok network =>
        obtain rfl := hends
        rintro _ _ ⟨⟩
        exact hgood _ (List.mem_singleton.mpr rfl)
    | error err =>
        rcases hends with rfl | ⟨_, rfl⟩
        · exact fun _ _ hout => by cases hout
        · exact fun _ _ hout => by cases hout

theorem reconcilePreExistingNetwork_named {n : NetworkSpec} (hn : N.network n.uuid = n.name) :
    KeepsNames N (reconcilePreExistingNetwork n) := by
  refine .read_any fun c => .ite (fun _ => .pure _) fun _ => ?_
  intro c₁ h hinv hc
  rw [svcGet, wpc_bind]
  refine history_perform fun reply hgood => ?_
  cases reply with
  | error err => exact hc
  | ok network =>
      have huuid : network.uuid = n.uuid := hgood
      simp only [after_ok, wpc_ite]
      split
      · exact hc
      · cases network.subnets with
        | nil => exact hc
        | cons subnet _ => exact hc.setNetwork (huuid ▸ hn) _ _ _ _

theorem reconcileManagedNetwork_named (n : NetworkSpec) :
    KeepsNames N (reconcileManagedNetwork cluster n) := by
  intro c h hinv hc
  rw [reconcileManagedNetwork, wpc_read_bind]
  have hcurrent : (c.status.getNetworkStatus n.name).elim "" (·.networkID) ≠ "" →
      N.network ((c.status.getNetworkStatus n.name).elim "" (·.networkID)) = n.name := by
    cases hns : c.status.getNetworkStatus n.name with
    | none => exact fun hne => absurd rfl hne
    | some ns => exact fun _ => hc.network hns
  refine wpc_seq (wpc_and (resolveNetwork_named cluster hcurrent)
    ((resolveNetwork_frame (f := id) n _ _).wpc c h)) ?_
  rintro (err | result | ⟨network, networkID⟩) c₁ h₁ ⟨hname, hsame⟩ <;> obtain rfl : c₁ = c := hsame
  · exact hc
  · exact hc
  · rw [after_ok]
    refine wpc_seq ((resolveSubnet_frame (f := id) n _ _ _).wpc c₁ h₁) ?_
    rintro (err | result | subnetID) c₂ h₂ hsame <;> obtain rfl : c₂ = c₁ := hsame
    · exact hc
    · exact hc
    · exact hc.setNetwork (hname _ _ rfl) _ _ _ _

theorem reconcileNetworks_named (ns : List NetworkSpec)
    (hns : ∀ n ∈ ns, n.uuid ≠ "" → N.network n.uuid = n.name) :
    KeepsNames N (reconcileNetworks cluster ns) := by
  induction ns with
  | nil => exact .pure _
  | cons n ns ih =>
      have ih := ih fun m hm => hns m (List.mem_cons_of_mem _ hm)
      refine .ite (fun hu => ?_) fun _ => ?_
      · exact .bind (.wrapErr (reconcilePreExistingNetwork_named (hns n List.mem_cons_self hu)))
          fun _ => ih
      · refine .bind (.wrapErr (reconcileManagedNetwork_named cluster n)) ?_
        exact fun result => .ite (fun _ => ih) fun _ => .pure _

theorem reconcileNetwork_named (hinv : (history N.Agrees).inv h) (hfits : N.Fits c.spec)
    (hc : StatusNamed N c.status) :
    (history N.Agrees).wpc (fun _ c' _ => StatusNamed N c'.status)
      (reconcileNetwork cluster) c h := by
  rw [reconcileNetwork, wpc_deferred, wpc_read_bind]
  have hkept : KeepsNames N
    (if c.spec.networks = [] then Proc.fail (errorf "no networks defined in spec")
      else reconcileNetworks cluster c.spec.networks) :=
    .ite (fun _ => .fail _) fun _ => reconcileNetworks_named cluster _ hfits.networks
  refine wpc_imp (hkept c h hinv hc) ?_
  intro out c' h' hc'
  cases out <;> exact hc'.congr rfl rfl

/-! ## The interfaces of a router -/

/-- The attach a call requests, if any, is one of the router that goes by this name. -/
def AttachesTo (N : Naming) (name : String) (e : CallEvent) : Prop :=
  ∀ router network, attachOf e.op = some (router, network) → N.router router = name

/-- Where the work on a router ends. -/
structure RouterDone (N : Naming) (name : String) (h : Trace) (c' : CloudscaleCluster)
    (h' : Trace) :
    Prop where
  named : StatusNamed N c'.status
  once : AttachesOnce h'
  only : New (AttachesTo N name) h h'

/-- A router that has just been read. -/
structure JustRead (N : Naming) (name : String) (router : Router) (h : Trace) : Prop where
  name : N.router router.uuid = name
  shown : N.Shown router
  read : lastRead router.uuid h = some router

theorem JustRead.on (hr : JustRead N r.name router h) {i : RouterInterface}
    (hi : i ∈ router.interfaces) (hnet : i.network = ns.networkID) (hs : StatusNamed N s)
    (hns : s.getNetworkStatus name = some ns) :
    N.network (N.attachedTo i.uuid) = ns.name := by
  rw [hr.shown i hi, hnet, hs.network hns, name_of_getNetworkStatus hns]

theorem adoptRouterInterface_named (hr : JustRead N r.name router h) (hc : StatusNamed N c.status)
    (hns : c.status.getNetworkStatus iface.network = some ns) :
    (history N.Agrees).wpc (fun _ c' h' => StatusNamed N c'.status ∧ h' = h)
      (adoptRouterInterface r iface ns router) c h := by
  rw [adoptRouterInterface]
  cases hlive : liveByUUID router.interfaces iface.uuid with
  | none => exact ⟨hc, rfl⟩
  | some live =>
      have hmem := List.mem_of_mem_filter (List.mem_of_getLast? hlive)
      simp only [wpc_ite]
      split
      · exact ⟨hc, rfl⟩
      · next hnet => exact ⟨hc.setInterface (fun _ => hr.on hmem (not_not.mp hnet) hc hns) _ _, rfl⟩

theorem claimRouterInterface_named {live : RouterInterface} (hr : JustRead N r.name router h)
    (hc : StatusNamed N c.status) (hns : c.status.getNetworkStatus iface.network = some ns)
    (hlive : liveByNetwork router.interfaces ns.networkID = some live) :
    (history N.Agrees).wpc (fun _ c' h' => StatusNamed N c'.status ∧ h' = h)
      (claimRouterInterface r iface ns live) c h := by
  have hmem := List.mem_of_getLast? hlive
  have hnet : live.network = ns.networkID := of_decide_eq_true (List.mem_filter.mp hmem).2
  rw [claimRouterInterface, wpc_read_bind, wpc_ite]
  split
  · exact ⟨hc, rfl⟩
  · exact ⟨hc.setInterface (fun _ => hr.on (List.mem_of_mem_filter hmem) hnet hc hns) _ _, rfl⟩

/-- The only call of the loop. -/
theorem createRouterInterface_named (hc : StatusNamed N c.status)
    (hns : c.status.getNetworkStatus iface.network = some ns) :
    (history N.Agrees).wpc (fun _ c' h' => StatusNamed N c'.status ∧ ∃ req reply,
        h' = h ++ [⟨.createInterface router.uuid req, reply⟩] ∧ req.network = ns.networkID)
      (createRouterInterface r router iface ns) c h := by
  have hempty : StatusNamed N (setRouterInterfaceStatus r.name ns.name "" true c).status :=
    hc.setInterface (fun hne => absurd rfl hne) _ _
  rw [createRouterInterface, wpc_update_bind, wpc_bind]
  refine history_perform fun reply hgood => ?_
  cases reply with
  | error err =>
      simp only [after_ok, wpc_ite]
      split <;> exact ⟨hempty, _, _, rfl, rfl⟩
  | ok created =>
      have hon : N.attachedTo created.uuid = ns.networkID := hgood
      refine ⟨hempty.setInterface (fun _ => ?_) _ _, _, _, rfl, rfl⟩
      rw [hon, hc.network hns, name_of_getNetworkStatus hns]

/-- No interface is on a network that the index does not have. -/
theorem unattached_of_liveByNetwork (hlive : liveByNetwork router.interfaces networkID = none) :
    ∀ i ∈ router.interfaces, i.network ≠ networkID := by
  intro i hi hnet
  rw [liveByNetwork, List.getLast?_eq_none_iff, List.filter_eq_nil_iff] at hlive
  exact hlive i hi (decide_eq_true hnet)

/-- By induction on the interfaces: what is still to be attached has not been requested yet, since
networks of other names are other networks. -/
theorem reconcileInterfaces_once (ifaces : List RouterInterfaceSpec)
    (hkeys : (ifaces.map (·.network)).Nodup) : ∀ c h, StatusNamed N c.status → AttachesOnce h →
      JustRead N r.name router h →
      (∀ e ∈ h, ∀ network, attachOf e.op = some (router.uuid, network) →
        N.network network ∉ ifaces.map (·.network)) →
      (history N.Agrees).wpc (fun _ c' h' => RouterDone N r.name h c' h')
        (reconcileInterfaces r router ifaces) c h := by
  induction ifaces with
  | nil => exact fun c h hc hh _ _ => ⟨hc, hh, .refl _ h⟩
  | cons iface rest ih =>
      intro c h hc hh hr hfree
      obtain ⟨hnew, hrest⟩ := List.nodup_cons.mp hkeys
      have hfree' : ∀ e ∈ h, ∀ network, attachOf e.op = some (router.uuid, network) →
          N.network network ∉ rest.map (·.network) :=
        fun e he network hattach hmem => hfree e he network hattach (List.mem_cons_of_mem _ hmem)
      -- adopting and claiming take no call
      have hquiet {m : ClusterM Unit}
          (hm : (history N.Agrees).wpc (fun _ c' h' => StatusNamed N c'.status ∧ h' = h) m c h) :
          (history N.Agrees).wpc (fun _ c' h' => RouterDone N r.name h c' h')
            (m >>= fun _ => reconcileInterfaces r router rest) c h := by
        refine wpc_seq hm ?_
        rintro (err | _) c₁ _ ⟨hc₁, rfl⟩
        · exact ⟨hc₁, hh, .refl _ _⟩
        · exact ih hrest c₁ _ hc₁ hh hr hfree'
      rw [reconcileInterfaces, wpc_read_bind]
      cases hns : c.status.getNetworkStatus iface.network with
      | none => exact ⟨hc, hh, .refl _ h⟩
      | some ns =>
          have hname : N.network ns.networkID = iface.network := hc.network hns
          rw [wpc_ite]
          split
          · exact hquiet (adoptRouterInterface_named hr hc hns)
          cases hlive : liveByNetwork router.interfaces ns.networkID with
          | some live => exact hquiet (claimRouterInterface_named hr hc hns hlive)
          | none =>
              refine wpc_seq (createRouterInterface_named hc hns) ?_
              rintro out c₁ _ ⟨hc₁, req, reply, rfl, hreq⟩
              have hh₁ : AttachesOnce (h ++ [⟨.createInterface router.uuid req, reply⟩]) := by
                refine hh.snoc ?_
                rintro _ _ ⟨⟩
                refine ⟨fun r' hr' => ?_, fun e he hattach => ?_⟩
                · obtain rfl := Option.some.inj (hr.read.symm.trans hr')
                  rw [hreq]
                  exact unattached_of_liveByNetwork hlive
                · refine hfree e he _ hattach ?_
                  rw [hreq, hname]
                  exact List.mem_cons_self
              have honly : New (AttachesTo N r.name) h
                  (h ++ [⟨.createInterface router.uuid req, reply⟩]) := by
                refine .snoc ?_ h
                rintro _ _ ⟨⟩
                exact hr.name
              cases out with
              | error err => exact ⟨hc₁, hh₁, honly⟩
              | ok result =>
                  rw [after_ok, wpc_ite]
                  split
                  · refine wpc_imp (ih hrest c₁ _ hc₁ hh₁ ⟨hr.name, hr.shown, ?_⟩ ?_) ?_
                    · exact (lastRead_other rfl _).trans hr.read
                    · intro e he network hattach
                      rcases List.mem_append.mp he with he | he
                      · exact hfree' e he network hattach
                      · obtain rfl := List.mem_singleton.mp he
                        cases hattach
                        rw [hreq, hname]
                        exact hnew
                    · exact fun _ c' h' hdone => ⟨hdone.named, hdone.once, honly.trans hdone.only⟩
                  · exact ⟨hc₁, hh₁, honly⟩

/-! ## Routers -/

theorem recordRouter_once (hkeys : (r.interfaces.map (·.network)).Nodup)
    (hc : StatusNamed N c.status) (hh : AttachesOnce h) (hr : JustRead N r.name router h)
    (hfree : ∀ e ∈ h, ∀ network, attachOf e.op ≠ some (router.uuid, network)) :
    (history N.Agrees).wpc (fun _ c' h' => RouterDone N r.name h c' h')
      (recordRouter r router) c h := by
  have hset : StatusNamed N (setRouterStatus r router.uuid c).status := hc.setRouter hr.name
  rw [recordRouter, wpc_update_bind, wpc_ite]
  split
  · exact ⟨hset, hh, .refl _ h⟩
  · rw [reconcileRouterInterfaces, wpc_read_bind]
    split
    · exact ⟨hset, hh, .refl _ h⟩
    · exact reconcileInterfaces_once _ hkeys _ h hset hh hr fun e he network hattach =>
        absurd hattach (hfree e he network)

theorem adoptRouter_read (hr : N.router r.uuid = r.name) :
    (history N.Agrees).wpc
      (fun out _ h' => ∀ router, out = .ok router → JustRead N r.name router h')
      (adoptRouter r) c h := by
  rw [adoptRouter, wpc_read_bind, svcGet, wpc_bind]
  refine history_perform fun reply hgood => ?_
  cases reply with
  | error err => exact fun _ hout => by cases hout
  | ok router =>
      obtain ⟨huuid, hshown⟩ : router.uuid = r.uuid ∧ N.Shown router := hgood
      simp only [after_ok, wpc_ite]
      split
      · exact fun _ hout => by cases hout
      · rintro _ ⟨⟩
        exact ⟨huuid ▸ hr, hshown, lastRead_snoc rfl⟩

theorem ensureManagedRouter_read (hc : StatusNamed N c.status) :
    (history N.Agrees).wpc (fun out _ h' => New (fun e => attachOf e.op = none) h h' ∧
        ∀ router, out = .ok (.ok router) → JustRead N r.name router h')
      (ensureManagedRouter cluster r) c h := by
  have hcurrent : (c.status.getRouterStatus r.name).elim "" (·.routerID) ≠ "" →
      N.router ((c.status.getRouterStatus r.name).elim "" (·.routerID)) = r.name := by
    cases hrs : c.status.getRouterStatus r.name with
    | none => exact fun hne => absurd rfl hne
    | some rs =>
        have hname : rs.name = r.name := by simpa using List.find?_some hrs
        exact fun _ => (hc.routers rs (List.mem_of_find?_eq_some hrs)).router.trans hname
  rw [ensureManagedRouter, wpc_read_bind]
  refine wpc_seq (wpc_wrapped (wpc_and (ensureResource_found (k := .router))
    ((ensureResource_lookups (f := id) (k := .router) _ _ _).wpc_new c h))
    fun _ _ _ hend => ⟨fun _ _ hout => (by cases hout), hend.2⟩) ?_
  rintro out c₁ h₁ ⟨hfound, -, hlookups⟩
  have hquiet : New (fun e => attachOf e.op = none) h h₁ := hlookups.mono fun _ => attachOf_lookup
  -- reached with no router, and with one that has no ID
  have hcreate : (history N.Agrees).wpc (fun out _ h' => New (fun e => attachOf e.op = none) h h' ∧
      ∀ router, out = .ok (.ok router) → JustRead N r.name router h')
      (ensureManagedRouter.createRouter r c (routerTags cluster r.name)) c₁ h₁ := by
    rw [ensureManagedRouter.createRouter]
    refine wpc_imp (createResource_ends (k := .router)) ?_
    rintro out _ _ ⟨rfl, reply, hgood, rfl, hends⟩
    refine ⟨hquiet.trans (.snoc (by rfl) h₁), ?_⟩
    cases reply with
    | ok router =>
        obtain rfl := hends
        obtain ⟨hname, hshown⟩ := hgood
        rintro _ ⟨⟩
        exact ⟨hname _ (List.mem_singleton.mpr rfl), hshown, lastRead_snoc rfl⟩
    | error err =>
        rcases hends with rfl | ⟨_, rfl⟩
        · exact fun _ hout => by cases hout
        · exact fun _ hout => by cases hout
  rcases out with err | ⟨_ | router, id⟩
  · exact ⟨hquiet, fun _ hout => by cases hout⟩
  · exact hcreate
  · simp only [after_ok, wpc_ite]
    split
    · next hid =>
      refine ⟨hquiet, ?_⟩
      rintro _ ⟨⟩
      cases hfound _ _ rfl hid with
      | get hid hgood =>
          obtain ⟨huuid, hshown⟩ := hgood
          exact ⟨huuid ▸ hcurrent hid, hshown, lastRead_snoc rfl⟩
      | list hgood =>
          obtain ⟨hname, hshown⟩ := hgood router (List.mem_singleton.mpr rfl)
          exact ⟨hname _ (List.mem_singleton.mpr rfl), hshown, lastRead_snoc rfl⟩
    · exact hcreate

/-- Routers of other names are other routers. -/
theorem reconcileRouter_once (hkeys : (r.interfaces.map (·.network)).Nodup)
    (hfits : r.uuid ≠ "" → N.router r.uuid = r.name) (hc : StatusNamed N c.status)
    (hh : AttachesOnce h)
    (hfree : ∀ e ∈ h, ∀ router network, attachOf e.op = some (router, network) → N.router router ≠
      r.name) :
    (history N.Agrees).wpc (fun _ c' h' => RouterDone N r.name h c' h')
      (reconcileRouter cluster r) c h := by
  have hskip {e : CallEvent} (he : attachOf e.op = none) : AttachesTo N r.name e :=
    fun _ _ hattach => by rw [he] at hattach; cases hattach
  -- both ways end in `recordRouter`, after calls that attach nothing
  have hrecord {router : Router} {h₁ : Trace} (hnew : New (fun e => attachOf e.op = none) h h₁)
      (hr : JustRead N r.name router h₁) :
      (history N.Agrees).wpc (fun _ c' h' => RouterDone N r.name h c' h')
        (recordRouter r router) c h₁ := by
    refine wpc_imp (recordRouter_once hkeys hc (hh.quiet hnew) hr ?_) ?_
    · obtain ⟨t, rfl, ht⟩ := hnew
      intro e he network hattach
      rcases List.mem_append.mp he with he | he
      · exact hfree e he _ _ hattach hr.name
      · rw [ht e he] at hattach
        cases hattach
    · exact fun _ c' h' hdone =>
        ⟨hdone.named, hdone.once, (hnew.mono fun _ => hskip).trans hdone.only⟩
  rw [reconcileRouter, wpc_ite]
  split
  · next hu =>
    refine wpc_seq (wpc_and (adoptRouter_read (hfits hu))
      ((adoptRouter_within (f := id) (P := IsLookup) r fun _ => trivial).wpc_new c h)) ?_
    rintro (err | router) c₁ h₁ ⟨hread, hsame, hlookups⟩ <;> obtain rfl : c₁ = c := hsame
    all_goals have hquiet := hlookups.mono fun _ => attachOf_lookup
    · exact ⟨hc, hh.quiet hquiet, hquiet.mono fun _ => hskip⟩
    · exact hrecord hquiet (hread _ rfl)
  · refine wpc_seq (wpc_and (ensureManagedRouter_read cluster hc)
      ((ensureManagedRouter_frame (f := id) cluster r).wpc c h)) ?_
    rintro (err | result | router) c₁ h₁ ⟨⟨hquiet, hread⟩, hsame⟩ <;> obtain rfl : c₁ = c := hsame
    · exact ⟨hc, hh.quiet hquiet, hquiet.mono fun _ => hskip⟩
    · exact ⟨hc, hh.quiet hquiet, hquiet.mono fun _ => hskip⟩
    · exact hrecord hquiet (hread _ rfl)

/-- By induction on the routers: nothing has been attached yet to those that are left. -/
theorem reconcileEachRouter_once (rs : List RouterSpec) (hnames : (rs.map (·.name)).Nodup)
    (hkeys : ∀ r ∈ rs, (r.interfaces.map (·.network)).Nodup)
    (hfits : ∀ r ∈ rs, r.uuid ≠ "" → N.router r.uuid = r.name) :
    ∀ result c h, StatusNamed N c.status →
      AttachesOnce h → (∀ e ∈ h, ∀ router network, attachOf e.op = some (router, network) →
        N.router router ∉ rs.map (·.name)) →
      (history N.Agrees).wpc (fun _ c' h' => StatusNamed N c'.status ∧ AttachesOnce h')
        (reconcileEachRouter cluster result rs) c h := by
  induction rs with
  | nil => exact fun _ c h hc hh _ => ⟨hc, hh⟩
  | cons r rest ih =>
      intro result c h hc hh hfree
      obtain ⟨hnew, hrest⟩ := List.nodup_cons.mp hnames
      obtain ⟨hkey, hkeys⟩ := List.forall_mem_cons.mp hkeys
      obtain ⟨hfit, hfits⟩ := List.forall_mem_cons.mp hfits
      rw [reconcileEachRouter]
      refine wpc_seq
        (wpc_wrapped (reconcileRouter_once cluster hkey hfit hc hh ?_) fun _ _ _ => id) ?_
      · exact fun e he router network hattach heq =>
          hfree e he router network hattach (heq ▸ List.mem_cons_self)
      rintro (err | res) c₁ h₁ ⟨hc₁, hh₁, t, rfl, ht⟩
      · exact ⟨hc₁, hh₁⟩
      · rw [after_ok]
        refine ih hrest hkeys hfits _ c₁ _ hc₁ hh₁ fun e he router network hattach => ?_
        -- what was attached now is on a router with another name than the rest have
        rcases List.mem_append.mp he with he | he
        · exact fun hmem => hfree e he router network hattach (List.mem_cons_of_mem _ hmem)
        · rw [ht e he router network hattach]
          exact hnew

theorem reconcileRouters_once (hkeys : UniqueKeys c.spec) (hfits : N.Fits c.spec)
    (hc : StatusNamed N c.status) (hnone : New (fun e => attachOf e.op = none) [] h) :
    (history N.Agrees).wpc (fun _ c' h' => StatusNamed N c'.status ∧ AttachesOnce h')
      (reconcileRouters cluster) c h := by
  rw [reconcileRouters, wpc_deferred, wpc_read_bind]
  have hh : AttachesOnce h := AttachesOnce.nil.quiet hnone
  obtain ⟨t, rfl, ht⟩ := hnone
  refine wpc_imp
    (reconcileEachRouter_once cluster _ hkeys.1 hkeys.2 hfits.routers _ c _ hc hh ?_) ?_
  · intro e he router network hattach
    rw [ht e he] at hattach
    cases hattach
  · rintro out c' h' ⟨hc', hh'⟩
    refine ⟨?_, hh'⟩
    cases out with
    | error err => exact hc'.congr rfl rfl
    | ok result =>
        rw [setRouterReady]
        split_ifs <;> exact hc'.congr rfl rfl

/-! ## The pass -/

/-- Steps that have nothing to do with routers. -/
theorem keepsOnce_of_frame {α β : Type} {f : CloudscaleCluster → β} {P : Op → Prop}
    {m : ClusterM α} (hm : Frame f P m) (hP : ∀ op, P op → attachOf op = none)
    (hf : ∀ c c', f c' = f c → c'.status.networks = c.status.networks ∧
      c'.status.routers = c.status.routers) :
    (history N.Agrees).Preserves (fun c h => StatusNamed N c.status ∧ AttachesOnce h) m := by
  rintro c h - ⟨hc, hh⟩
  refine wpc_imp (hm.wpc_new c h) ?_
  rintro _ c' h' ⟨hsame, hnew⟩
  obtain ⟨hnet, hrouters⟩ := hf c c' hsame
  exact ⟨hc.congr hnet hrouters, hh.quiet (hnew.mono fun e => hP e.op)⟩

/-- A normal pass from a status that keeps to the names. -/
theorem reconcileNormal_once (hkeys : UniqueKeys c.spec) (hfits : N.Fits c.spec)
    (hc : StatusNamed N c.status) :
    (history N.Agrees).wpc (fun _ c' h' => StatusNamed N c'.status ∧ AttachesOnce h')
      (reconcileNormal cluster) c [] := by
  have hinv : (history N.Agrees).inv [] := fun e he => by cases he
  rw [reconcileNormal, wpc_deferred]
  refine wpc_imp (Q := fun _ c' h' => StatusNamed N c'.status ∧ AttachesOnce h') ?_
    fun _ c' _ hend => ⟨hend.1.congr rfl rfl, hend.2⟩
  refine wpc_seq_inv hinv (wpc_wrapped (wpc_and (reconcileNetwork_named cluster hinv hfits hc)
    ((reconcileNetwork_frame cluster).wpc_new c [])) fun _ _ _ => id) ?_
  rintro (err | result) c₁ h₁ hinv₁ ⟨hc₁, hsame, habout⟩
  all_goals have hquiet := habout.mono fun _ => attachOf_about (by decide)
  · exact ⟨hc₁, AttachesOnce.nil.quiet hquiet⟩
  rw [after_ok, wpc_ite]
  split
  · exact ⟨hc₁, AttachesOnce.nil.quiet hquiet⟩
  have hspec : c₁.spec = c.spec := (congrArg (·.spec) hsame :)
  refine wpc_seq_inv hinv₁
    (wpc_wrapped (reconcileRouters_once cluster (hspec ▸ hkeys) (hspec ▸ hfits)
    hc₁ hquiet) fun _ _ _ => id) ?_
  rintro (err | result) c₂ h₂ hinv₂ hend
  · exact hend
  rw [after_ok]
  -- the other steps write other fields, and attach nothing
  refine Preserves.ite (fun _ => .pure _) (fun _ => afterRouters_preserves
    (keepsOnce_of_frame (reconcileLoadBalancer_frame cluster) (fun _ => attachOf_about (by decide))
      fun c c' hsame => ?_)
    (keepsOnce_of_frame (reconcileFloatingIP_frame cluster) (fun _ => attachOf_about (by decide))
      fun c c' hsame => ?_)
    fun lb => keepsOnce_of_frame (finishNormal_frame cluster lb) (fun _ => False.elim)
      fun c c' hsame => ?_) c₂ h₂ hinv₂ hend
  all_goals exact ⟨congrArg (·.status.networks) hsame, congrArg (·.status.routers) hsame⟩

end Capcs.Interfaces
