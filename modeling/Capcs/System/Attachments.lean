import Capcs.Interfaces.Attachment
import Capcs.System.References

/-!
# Capcs.System.Attachments — attaches over the life of a cluster

The passes over the versions of a cluster, where no network of the project goes by two names in
any of the specs, and no router (`Naming.Fits`). The statuses then keep to these names, so that no
pass attaches a router to a network twice, and the interface entries of a router are about
different interfaces (`attached_once`).

The webhook does not see to that: it compares the names of the networks, and not their UUIDs. With
two names for one network a pass requests the same attach twice, and the next pass takes the one
interface for both entries (`attached_twice`).
-/

namespace Capcs.System

open Cloudscale Controller Webhook Interfaces
open Readiness (CallEvent Trace)

variable {N : Naming} {first c before after new : CloudscaleCluster} {vs : List CloudscaleCluster}

/-! ## Every version -/

/-- What a pass over a version has done, and the status it has in memory at its end. -/
theorem statusNamed_pass {cluster : Cluster} {tr : Trace} {out : Except GoError Result}
    (hkeys : UniqueKeys before.spec) (hfits : N.Fits before.spec)
    (hnamed : StatusNamed N before.status)
    (hrun : ((reconcileNormal cluster).exec (startNormal before)).Runs tr (out, after))
    (hgood : ∀ e ∈ tr, N.Agrees e.op e.reply) : StatusNamed N after.status ∧ AttachesOnce tr :=
  Interaction.runs_of_wpc (h := [])
    (reconcileNormal_once (c := startNormal before) cluster hkeys hfits
      (hnamed.congr rfl rfl)) hrun hgood

/-- A patch takes each list from one of two statuses that keep to the names. -/
theorem statusNamed_patched (hp : ClusterPatched before after c new) (hs : StatusNamed N c.status)
    (ha : StatusNamed N after.status) : StatusNamed N new.status where
  networks := (networks_patched hp).elim (· ▸ hs.networks) (· ▸ ha.networks)
  routers := (routers_patched hp).elim (· ▸ hs.routers) (· ▸ ha.routers)

theorem Lifetime.named (h : Lifetime N.Agrees first vs) (hfits : ∀ v ∈ vs, N.Fits v.spec) :
    ∀ v ∈ vs, StatusNamed N v.status := by
  refine h.all (P := fun _ _ status => StatusNamed N status) {
    create := fun _ _ _ => .empty N
    lost := fun _ => .empty N
    extend := fun _ _ => id
    pass := ?_
    patch := statusNamed_patched
    env := fun _ => id }
  rintro first before after _ hmem hproper - ⟨-, -, cluster, tr, out, hrun, hgood⟩ hnamed
  exact ⟨(statusNamed_pass hproper.keys (hfits before hmem) hnamed hrun hgood).1, id⟩

/-! ## The result -/

/-- Take any run of updates, lost statuses and normal passes in which the UUIDs of networks and
routers, those of the specs and those found or created by tag, go by one name each. No pass over
any version requests an attach that the router already has, or that was requested before, and no
two interface entries of a router, stored or in memory after a pass, have the same ID. -/
theorem attached_once (h : Lifetime N.Agrees first vs) (hfits : ∀ v ∈ vs, N.Fits v.spec) :
    ∀ v ∈ vs, EntriesDiffer v.status ∧ ∀ cluster tr out after,
      ((reconcileNormal cluster).exec (startNormal v)).Runs tr (out, after) →
      (∀ e ∈ tr, N.Agrees e.op e.reply) → AttachesOnce tr ∧ EntriesDiffer after.status := by
  intro v hv
  have hkeys := (h.ordered.proper v hv).keys
  have hnamed := Lifetime.named h hfits v hv
  refine ⟨hnamed.differ, fun cluster tr out after hrun hgood => ?_⟩
  obtain ⟨hnamed', honce⟩ := statusNamed_pass hkeys (hfits v hv) hnamed hrun hgood
  exact ⟨honce, hnamed'.differ⟩

/-! ## One network, two names -/

/-- A cluster with names for a network of the user, and a router of the user's to be attached to
all of them. -/
def namesFor (names : List (String × String)) : CloudscaleCluster :=
  clusterDefault oneRegion { smallCluster with
    spec := { smallCluster.spec with
      networks := names.map fun n => { name := n.1, uuid := "n" }
      routers := [{ name := "r", uuid := "r"
                    interfaces := names.map fun n => { network := n.1, address := n.2 } }] } }

/-- The attach that is granted. -/
def grantedAttach : CreateInterfaceRequest :=
  { network := "n", addresses := [{ subnet := "s", address := "10.0.0.1" }] }

/-- A project with the network, and the router with some interfaces. -/
def attachReply (ifaces : List RouterInterface) : (op : Op) → op.Reply
  | .get .network id =>
      .ok { uuid := id, zone := "rma1", subnets := [{ uuid := "s", cidr := "10.0.0.0/24" }] }
  | .get .router id =>
      .ok { uuid := id, zone := "rma1", status := routerActive, interfaces := ifaces }
  | .createInterface _ req => if req = grantedAttach then .ok { uuid := "i", network := "n" }
    else .error (.response 400 "")
  | op => emptyReply op

/-- The names of that network, that router and its interfaces. -/
def projectNames : Naming where
  network _ := "net"
  router _ := "r"
  attachedTo _ := "n"

theorem attachReply_agrees {ifaces : List RouterInterface} (hifaces : ∀ i ∈ ifaces, i.network = "n")
    (op : Op) : projectNames.Agrees op (attachReply ifaces op) := by
  cases op with
  | get k id =>
      cases k with
      | network => rfl
      | router => exact ⟨rfl, fun i hi => (hifaces i hi).symm⟩
      | _ => trivial
  | list k tags => cases k <;> first | trivial | exact fun _ hmem => absurd hmem List.not_mem_nil
  | create k req => cases k <;> trivial
  | createInterface router req =>
      rw [attachReply]
      split
      · next hreq => exact hreq ▸ rfl
      · trivial
  | _ => trivial

/-- A recorded pass in such a project. -/
def attachPass (c : CloudscaleCluster) (ifaces : List RouterInterface) :
    Trace × Except GoError Result × CloudscaleCluster :=
  (reconcileNormal { name := "c", ns := "default" }).record (attachReply ifaces) (startNormal c)

theorem attachPass_agrees {ifaces : List RouterInterface}
    (hifaces : ∀ i ∈ ifaces, i.network = "n") :
    ∀ e ∈ (attachPass c ifaces).1, projectNames.Agrees e.op e.reply := by
  intro e he
  rw [Interaction.Program.reply_of_mem_record he]
  exact attachReply_agrees hifaces e.op

/-- The attaches of a trace, and whether they were granted. -/
def attachesOf (tr : Trace) : List ((String × String) × Bool) :=
  tr.filterMap fun e => match e with
    | ⟨.createInterface router req, reply⟩ => some ((router, req.network), reply.isOk)
    | _ => none

/-- With one name for the network, it is attached once. -/
theorem attached_once_named :
    attachesOf (attachPass (namesFor [("net", "10.0.0.1")]) []).1 = [(("r", "n"), true)] ∧
    AttachesOnce (attachPass (namesFor [("net", "10.0.0.1")]) []).1 ∧
    EntriesDiffer (attachPass (namesFor [("net", "10.0.0.1")]) []).2.2.status := by
  refine ⟨by decide +kernel, ?_⟩
  have hfits : projectNames.Fits (namesFor [("net", "10.0.0.1")]).spec := by
    constructor <;> decide
  have hcreated : Lifetime projectNames.Agrees (namesFor [("net", "10.0.0.1")])
      [namesFor [("net", "10.0.0.1")]] := .create (by decide) (by decide) rfl rfl trivial
  refine (attached_once hcreated (fun v hv => List.mem_singleton.mp hv ▸ hfits) _
    (List.mem_singleton.mpr rfl)).2 _ _ _ _ ((reconcileNormal _).runs_record _ _) ?_
  exact attachPass_agrees fun _ hi => absurd hi List.not_mem_nil

/-- Two names for the network. -/
def twoNames : CloudscaleCluster := namesFor [("net", "10.0.0.1"), ("lan", "10.0.0.2")]

/-- The version after the first pass. -/
def onceAttached : CloudscaleCluster := withStatusOf twoNames (attachPass twoNames []).2.2

/-- The interface of the first attach. -/
def grantedIface : RouterInterface := { uuid := "i", network := "n" }

/-- A cluster with two names for one network is admitted. The first pass attaches the router to
the network under one name and requests the same attach under the other, and the next pass, which
finds the one interface, has it in both entries. -/
theorem attached_twice :
    Lifetime projectNames.Agrees twoNames [onceAttached, twoNames] ∧
    attachesOf (attachPass twoNames []).1 = [(("r", "n"), true), (("r", "n"), false)] ∧
    ¬ AttachesOnce (attachPass twoNames []).1 ∧
    (attachPass onceAttached [grantedIface]).2.2.status.routers.map (·.interfaces) =
      [[{ network := "net", interfaceID := "i", managed := true },
        { network := "lan", interfaceID := "i", managed := true }]] ∧
    ¬ EntriesDiffer (attachPass onceAttached [grantedIface]).2.2.status := by
  have hcreated : Lifetime projectNames.Agrees twoNames [twoNames] :=
    .create (by decide) (by decide) rfl rfl trivial
  refine ⟨?_, by decide +kernel, fun honce => ?_, by decide +kernel, by decide +kernel⟩
  · have hagrees := attachPass_agrees (c := twoNames) fun i (hi : i ∈ []) =>
      absurd hi List.not_mem_nil
    exact hcreated.pass List.mem_cons_self
      ⟨rfl, trivial, _, _, _, (reconcileNormal _).runs_record _ _, hagrees⟩
      (clusterPatched_withStatusOf _ _) trivial
  · have hattaches : (attachPass twoNames []).1.filterMap
        (attachOf ·.op) = [("r", "n"), ("r", "n")] := by
      decide +kernel
    obtain ⟨pre, e₁, rest, htr, -, he₁, hrest⟩ := List.filterMap_eq_cons_iff.mp hattaches
    obtain ⟨mid, e₂, post, hmid, -, he₂, -⟩ := List.filterMap_eq_cons_iff.mp hrest
    have hsplit : (attachPass twoNames []).1 = (pre ++ e₁ :: mid) ++ e₂ :: post := by
      rw [htr, hmid, List.append_assoc, List.cons_append]
    exact (honce _ _ _ _ _ hsplit he₂).requested e₁ (by simp) he₁

end Capcs.System
