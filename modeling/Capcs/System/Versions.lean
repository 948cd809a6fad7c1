import Capcs.Retention.Machine
import Capcs.System.Evolution

/-!
# Capcs.System.Versions — no ID is lost

Passes of both kinds over the versions of a cluster, with a record of the calls they have made.
`ids_retained` is about any pass over any of these versions, and over any machine.
-/

namespace Capcs.System

open Cloudscale Controller Webhook
open Readiness (Trace)
open Retention

/-! ## Versions -/

/-- A pass over a version of the cluster, with what it has in memory at the end. -/
def PassOver (c : CloudscaleCluster) (tr : Trace) (after : CloudscaleCluster) : Prop :=
  ∃ cluster out, (clusterWork cluster (unpausedCluster c)).Runs tr (out, after) ∧
    ∀ e ∈ tr, echoes e.op e.reply

/-- What is left of a pass: its calls, and what it had in memory at the end. -/
structure PassRecord where
  trace : Trace
  after : CloudscaleCluster

/-- Passes of both kinds are recorded, all of them with calls that meet a condition. -/
def recording (ok : Trace → Prop) : Setting (List PassRecord) where
  starts past _ := past = []
  pass past before after past' := ∃ tr, PassOver before tr after ∧ ok tr ∧
    past' = ⟨tr, after⟩ :: past

/-- The versions stored so far, the newest first, and the passes that were made. -/
abbrev Versions (ok : Trace → Prop) (vs : List CloudscaleCluster) (past : List PassRecord) : Prop :=
  Evolution (recording ok) past vs

/-- The object a normal pass starts with. -/
def startNormal (c : CloudscaleCluster) : CloudscaleCluster :=
  { unpausedCluster c with metadata := addFinalizer clusterFinalizer (unpausedCluster c).metadata }

variable {spec spec' : CloudscaleClusterSpec} {status status' : CloudscaleClusterStatus}
  {c c' before after new : CloudscaleCluster} {tr : Trace} {σ : Type} {S : Setting σ} {s : σ}
  {vs : List CloudscaleCluster}

/-- A pass over a version that is not being deleted. -/
theorem clusterWork_normal (halive : c.metadata.deletionTimestamp = false) (cluster : Cluster) :
    clusterWork cluster (unpausedCluster c) = (reconcileNormal cluster).exec (startNormal c) := by
  have hnormal : ¬ (unpausedCluster c).metadata.deletionTimestamp = true := by
    show ¬ c.metadata.deletionTimestamp = true
    simp [halive]
  rw [clusterWork, if_neg hnormal]
  rfl

theorem clusterWork_delete (hdel : c.metadata.deletionTimestamp = true) (cluster : Cluster) :
    clusterWork cluster (unpausedCluster c) = (reconcileDelete cluster).exec (unpausedCluster c) :=
  if_pos hdel

/-! ## Status and spec stay in line -/

theorem accounted_extends (h : Accounted spec status) (hext : Extends spec spec') :
    Accounted spec' status := by
  constructor
  · intro e he
    obtain ⟨n, hn, hname, hm⟩ := h.networks e he
    obtain ⟨n', hn', hname', huuid, -⟩ := hext.networks n hn
    exact ⟨n', hn', hname'.trans hname, by rw [huuid, hm]⟩
  · intro e he
    obtain ⟨r, hr, hname, hm⟩ := h.routers e he
    obtain ⟨r', hr', hsame⟩ := hext.routers r hr
    exact ⟨r', hr', hsame.name.trans hname, by rw [hsame.uuid, hm]⟩

theorem accounted_empty (spec : CloudscaleClusterSpec) : Accounted spec {} :=
  ⟨by simp, by simp⟩

theorem Proper.distinct (h : Proper spec) : DistinctNames spec := ⟨h.names, h.keys.1⟩

/-! ## A pass over a version -/

/-- A normal pass over a version with an entry for nothing that is not in the spec. -/
theorem PassOver.retains (hpass : PassOver c tr after)
    (halive : c.metadata.deletionTimestamp = false) (hd : DistinctNames c.spec)
    (ha : Accounted c.spec c.status) : RetainsIDs c after tr := by
  obtain ⟨cluster, out, hrun, hgood⟩ := hpass
  rw [clusterWork_normal halive] at hrun
  have hstart := RetainsIDs.start ha []
  refine Interaction.runs_of_wpc (h := []) (reconcileNormal_safe cluster hd _ [] ?_ ?_) hrun
    (by simpa using hgood)
  · exact fun e he => absurd he (by simp)
  · exact ⟨rfl, rfl, rfl, ⟨ha.networks, ha.routers⟩,
      ⟨hstart.ids.networks, hstart.ids.routers, hstart.ids.loadBalancer, hstart.ids.pool,
        hstart.ids.listener, hstart.ids.healthMonitor, hstart.ids.floatingIP⟩⟩

/-- A teardown of any version. -/
theorem PassOver.tears (hdel : c.metadata.deletionTimestamp = true) (hpass : PassOver c tr after) :
    Tears c after tr := by
  obtain ⟨cluster, out, hrun, hgood⟩ := hpass
  rw [clusterWork_delete hdel] at hrun
  have hstart := Tears.start c []
  refine Interaction.runs_of_wpc (h := []) (reconcileDelete_careful cluster _ [] ?_ ?_) hrun
    (by simpa using hgood)
  · exact fun e he => absurd he (by simp)
  · exact ⟨rfl, hstart.networks, hstart.routers, ⟨hstart.ids.networks, hstart.ids.routers,
      hstart.ids.loadBalancer, hstart.ids.floatingIP⟩⟩

theorem PassOver.accounted (hpass : PassOver c tr after) (hd : DistinctNames c.spec)
    (ha : Accounted c.spec c.status) : Accounted c.spec after.status := by
  cases hdel : c.metadata.deletionTimestamp with
  | false => exact (hpass.retains hdel hd ha).accounted
  | true =>
      have ht := hpass.tears hdel
      constructor
      · exact fun e he => ha.networks e (ht.networks e he)
      · intro e he
        obtain ⟨e₀, he₀, hname, hmanaged, -⟩ := ht.routers e he
        obtain ⟨r, hr, hname', hm⟩ := ha.routers e₀ he₀
        exact ⟨r, hr, hname'.trans hname.symm, by rw [hmanaged, hm]⟩

/-- A patch takes each list from one of two statuses. -/
theorem accounted_patched (hp : ClusterPatched before after c new) (hs : Accounted spec c.status)
    (ha : Accounted spec after.status) : Accounted spec new.status where
  networks := (networks_patched hp).elim (· ▸ hs.networks) (· ▸ ha.networks)
  routers := (routers_patched hp).elim (· ▸ hs.routers) (· ▸ ha.routers)

/-- Wherever passes are passes over a version, the statuses are in line with the specs. -/
theorem Evolution.accounted (h : Evolution S s vs)
    (hS : ∀ {s before after s'}, S.pass s before after s' → ∃ tr, PassOver before tr after) :
    ∀ v ∈ vs, Accounted v.spec v.status := by
  refine h.all (P := fun _ spec status => Accounted spec status) {
    create := fun _ _ _ => accounted_empty _
    lost := fun _ => accounted_empty _
    extend := fun _ hext ha => accounted_extends ha hext
    pass := fun _ hproper _ hpass ha => ⟨?_, id⟩
    patch := accounted_patched
    env := fun _ ha => ha }
  obtain ⟨tr, hover⟩ := hS hpass
  exact hover.accounted hproper.distinct ha

theorem Versions.accounted {ok : Trace → Prop} {past : List PassRecord} (h : Versions ok vs past) :
    ∀ v ∈ vs, Accounted v.spec v.status :=
  Evolution.accounted h fun ⟨tr, hover, _⟩ => ⟨tr, hover⟩

/-! ## The result -/

/-- Whatever the API answers in a pass, provided `Get` returns what was asked for: a normal
pass over any version ever stored replaces an ID only if the API has said that there is
nothing of it, and a teardown drops one only if the API has deleted it or said so. The same
holds of passes over a machine in any state. -/
theorem ids_retained :
    (∀ vs past, Versions (fun _ => True) vs past → ∀ c ∈ vs, ∀ tr after, PassOver c tr after →
      (c.metadata.deletionTimestamp = false → KeepsIDs c after.status tr) ∧
      (c.metadata.deletionTimestamp = true → HoldsIDs c after.status tr)) ∧
    (∀ s m tr out m', (machineWork s (unpausedMachine m)).Runs tr (out, m') →
      (∀ e ∈ tr, echoes e.op e.reply) →
      (m.metadata.deletionTimestamp = false → KeepsServer m m' tr) ∧
      (m.metadata.deletionTimestamp = true →
        Held .server m.status.serverID m'.status.serverID tr)) := by
  constructor
  · intro vs past hstored c hc tr after hpass
    refine ⟨fun halive => ?_, fun hdel => (hpass.tears hdel).ids⟩
    exact (hpass.retains halive (hstored.ordered.proper c hc).distinct (hstored.accounted c hc)).ids
  · intro s m tr out m' hrun hgood
    have hinv : echoCalls.inv [] := fun e he => absurd he (by simp)
    have hgood : ∀ e ∈ [] ++ tr, echoes e.op e.reply := by simpa using hgood
    constructor
    · intro halive
      have hnormal : ¬ (unpausedMachine m).metadata.deletionTimestamp = true := by
        show ¬ m.metadata.deletionTimestamp = true
        simp [halive]
      rw [machineWork, if_neg hnormal] at hrun
      have hstart := KeepsServer.refl m []
      refine Interaction.runs_of_wpc (h := [])
        (machineReconcileNormal_safe s _ [] hinv ?_) hrun hgood
      exact ⟨hstart.server, hstart.serverGroup⟩
    · intro hdel
      rw [machineWork, if_pos
        (show (unpausedMachine m).metadata.deletionTimestamp = true from hdel)] at hrun
      exact Interaction.runs_of_wpc (h := [])
        (machineReconcileDelete_holds (m := unpausedMachine m) hinv) hrun hgood

/-! ## Two passes -/

/-- An empty project where a network and a subnet can be created. -/
def networksOnly : (op : Op) → op.Reply
  | .create .network _ => .ok { uuid := "n", zone := "rma1" }
  | .create .subnet _ => .ok { uuid := "s", network := "n" }
  | op => emptyReply op

/-- The API is down. -/
def unavailable : (op : Op) → op.Reply
  | .get _ _ => .error (.response 503 "unavailable")
  | .list _ _ => .error (.response 503 "unavailable")
  | op => emptyReply op

/-- A first pass, which gets as far as the load balancer. -/
def recordingPass : Trace × Except GoError Result × CloudscaleCluster :=
  (clusterWork { name := "c", ns := "default" } (unpausedCluster storedCluster)).record networksOnly

/-- The version with the status of that pass. -/
def recordedVersion : CloudscaleCluster :=
  { storedCluster with
    status := patchedStatus (unpausedCluster storedCluster).status recordingPass.2.2.status
      storedCluster.status }

/-- A second pass, during which the API is down. -/
def failingPass : Trace × Except GoError Result × CloudscaleCluster :=
  (clusterWork { name := "c", ns := "default" } (unpausedCluster recordedVersion)).record
    unavailable

theorem passOver_record (c : CloudscaleCluster) (cluster : Cluster) {reply : (op : Op) → op.Reply}
    (hgood : ∀ op, echoes op (reply op)) : PassOver c
      ((clusterWork cluster (unpausedCluster c)).record reply).1
      ((clusterWork cluster (unpausedCluster c)).record reply).2.2 := by
  refine ⟨cluster, _, Interaction.Program.runs_record reply _, ?_⟩
  intro e he
  rw [Interaction.Program.reply_of_mem_record he]
  exact hgood e.op

theorem recordedVersion_stored : Versions (fun _ => True) [recordedVersion, storedCluster]
    [⟨recordingPass.1, recordingPass.2.2⟩] := by
  have hpass : PassOver storedCluster recordingPass.1 recordingPass.2.2 := by
    refine passOver_record storedCluster _ fun op => ?_
    cases op with
    | create k _ => cases k <;> trivial
    | _ => trivial
  have hcreated : Versions (fun _ => True) [storedCluster] [] :=
    .create (by decide) (by decide) rfl rfl trivial
  refine hcreated.pass (List.mem_singleton.mpr rfl) ⟨_, hpass, trivial, rfl⟩ ?_ trivial
  exact ⟨rfl, .inl rfl, .inr rfl⟩

/-- The second pass fails at once, and the network is still recorded after it. -/
theorem ids_retained_unavailable :
    KeepsIDs recordedVersion failingPass.2.2.status failingPass.1 ∧
      recordedVersion.status.networks.map (·.networkID) = ["n"] ∧ failingPass.2.1.isOk = false := by
  refine ⟨?_, by decide +kernel, by decide +kernel⟩
  have hpass : PassOver recordedVersion failingPass.1 failingPass.2.2 := by
    refine passOver_record recordedVersion _ fun op => ?_
    cases op <;> trivial
  exact (ids_retained.1 _ _ recordedVersion_stored recordedVersion (by simp) _ _ hpass).1 rfl

end Capcs.System
