import Capcs.Mirror.Passes
import Capcs.System.Versions

/-!
# Capcs.System.Mirrored — every stored status follows its spec

The versions of the cluster once more, now with all that the status says of networks, routers and
interfaces. A pass may start from an old version with fewer networks and routers; what it writes
then still follows the newer spec, because admitted updates take nothing away.
-/

namespace Capcs.System

open Cloudscale Controller Webhook
open Readiness (Trace)
open Retention (DistinctNames)
open Mirror

variable {spec spec' : CloudscaleClusterSpec} {status : CloudscaleClusterStatus}
  {c before after new : CloudscaleCluster} {tr : Trace}

/-! ## Newer specs -/

theorem mirrorsRouter_extends {r r' : RouterSpec} {e : RouterStatus} (h : MirrorsRouter r e)
    (hext : RouterExtends r r') : MirrorsRouter r' e := by
  refine ⟨h.name.trans hext.name.symm, hext.uuid ▸ h.managed, hext.uuid ▸ h.carries, ?_⟩
  refine h.interfaces.mono fun i hi e hie => ?_
  obtain ⟨i', hi', hnet, -, huuid⟩ := hext.interfaces i hi
  exact ⟨i', hi', hie.network.trans hnet.symm, huuid ▸ hie.managed⟩

theorem mirrors_extends (h : MirrorsSpec spec status) (hext : Extends spec spec') :
    MirrorsSpec spec' status := by
  constructor
  · refine h.networks.mono fun n hn e hne => ?_
    obtain ⟨n', hn', hname, huuid, -⟩ := hext.networks n hn
    exact ⟨n', hn', hne.name.trans hname.symm, huuid ▸ hne.managed, huuid ▸ hne.carries⟩
  · refine h.routers.mono fun r hr e hre => ?_
    obtain ⟨r', hr', hsame⟩ := hext.routers r hr
    exact ⟨r', hr', mirrorsRouter_extends hre hsame⟩

/-! ## Passes and patches -/

/-- What a pass of either kind has in memory at its end. -/
theorem mirrors_pass (hd : DistinctNames c.spec) (h : MirrorsSpec c.spec c.status)
    (hpass : PassOver c tr after) : MirrorsSpec c.spec after.status := by
  obtain ⟨cluster, out, hrun, hgood⟩ := hpass
  have hinv : Retention.echoCalls.inv [] := fun e he => absurd he (by simp)
  have hgood : ∀ e ∈ [] ++ tr, Retention.echoes e.op e.reply := by simpa using hgood
  cases hdel : c.metadata.deletionTimestamp with
  | true =>
      rw [clusterWork_delete hdel] at hrun
      have hstart : InLine c.spec (unpausedCluster c) := ⟨rfl, rfl, h.networks, h.routers⟩
      exact (Interaction.runs_of_wpc (reconcileDelete_follows cluster _ [] hinv hstart) hrun
        hgood).mirrors
  | false =>
      rw [clusterWork_normal hdel] at hrun
      have hstart : InLine c.spec (startNormal c) := ⟨rfl, rfl, h.networks, h.routers⟩
      exact (Interaction.runs_of_wpc (reconcileNormal_follows cluster hd _ [] hinv hstart) hrun
        hgood).mirrors

/-- The status after a patch: each list is the stored one or that of the pass. -/
theorem mirrors_patched (hp : ClusterPatched before after c new) (hs : MirrorsSpec spec c.status)
    (ha : MirrorsSpec spec after.status) : MirrorsSpec spec new.status where
  networks := (networks_patched hp).elim (· ▸ hs.networks) (· ▸ ha.networks)
  routers := (routers_patched hp).elim (· ▸ hs.routers) (· ▸ ha.routers)

/-! ## All versions -/

/-- In every version ever stored, the status follows the spec: keys are distinct, every entry is
about an entry of the spec, is marked managed exactly when that has no UUID, and otherwise carries
the UUID it has. -/
theorem status_mirrors_spec {ok : Trace → Prop} {vs : List CloudscaleCluster}
    {past : List PassRecord} (h : Versions ok vs past) : ∀ v ∈ vs, MirrorsSpec v.spec v.status := by
  refine h.all (P := fun _ spec status => MirrorsSpec spec status) {
    create := fun _ _ _ => ⟨.nil, .nil⟩
    lost := fun _ => ⟨.nil, .nil⟩
    extend := fun _ hext hm => mirrors_extends hm hext
    pass := fun _ hproper _ hpass hm => ⟨?_, id⟩
    patch := mirrors_patched
    env := fun _ hm => hm }
  obtain ⟨tr, hover, -⟩ := hpass
  exact mirrors_pass hproper.distinct hm hover

/-- A version with a recorded network. -/
theorem status_mirrors_spec_recorded : recordedVersion.status.networks.map (·.networkID) = ["n"] ∧
    MirrorsSpec recordedVersion.spec recordedVersion.status :=
  ⟨by decide +kernel, status_mirrors_spec recordedVersion_stored recordedVersion (by simp)⟩

end Capcs.System
