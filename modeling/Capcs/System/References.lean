import Capcs.References.Resolve
import Capcs.System.Belonging

/-!
# Capcs.System.References — references over the life of a cluster

The versions of a cluster under admitted updates, lost statuses and normal passes over any of
them, where the API answers as it likes up to a condition on single replies. Every entry of a
stored status is about a network of the spec stored with it, because a pass writes entries of the
networks it reads and an update takes none away.

* `references_resolve` — past the network step, no lookup of a pass fails.
* `pool_network_fixed` — the pool members stay on one network.
-/

namespace Capcs.System

open Cloudscale Controller Webhook References
open Readiness (Trace)

/-! ## Versions -/

/-- A normal pass over a version, with what it has in memory at its end. -/
def NormalOver (good : (op : Op) → op.Reply → Prop) (before after : CloudscaleCluster) : Prop :=
  ∃ cluster tr out, ((reconcileNormal cluster).exec (startNormal before)).Runs tr (out, after) ∧
    ∀ e ∈ tr, good e.op e.reply

/-- Normal passes over versions that meet a condition; the first version is remembered. -/
def normalPasses (ok : CloudscaleCluster → Prop) (good : (op : Op) → op.Reply → Prop) :
    Setting CloudscaleCluster where
  starts first c := c = first
  pass first before after first' := first' = first ∧ ok before ∧ NormalOver good before after

/-- The versions stored so far, the newest first, after the first one. -/
abbrev Lifetime (good : (op : Op) → op.Reply → Prop) (first : CloudscaleCluster)
    (vs : List CloudscaleCluster) : Prop :=
  Evolution (normalPasses (fun _ => True) good) first vs

variable {good : (op : Op) → op.Reply → Prop} {ok : CloudscaleCluster → Prop}
  {fits : CloudscaleClusterSpec → Prop}
  {R : NetworkSpec → NetworkStatus → Prop} {first c before after new : CloudscaleCluster}
  {vs : List CloudscaleCluster}

/-! ## What holds of every version -/

theorem Proper.refers {spec : CloudscaleClusterSpec} (h : Proper spec) : Refers spec := by
  obtain ⟨_, hvalid⟩ := h.valid
  exact refers_of_valid hvalid

/-- What the entries may be asked for: it is kept by passes over specs that meet a condition, and
depends only on what a network keeps. -/
structure Lasting (fits : CloudscaleClusterSpec → Prop) (good : (op : Op) → op.Reply → Prop)
    (R : NetworkSpec → NetworkStatus → Prop) : Prop where
  writes : ∀ spec, Refers spec → fits spec → Mirror.Writes good spec.networks R
  kept : ∀ n n' e, n'.name = n.name → n'.uuid = n.uuid → n'.cidr = n.cidr → R n e → R n' e

theorem Lasting.extends (hR : Lasting fits good R) {a b : CloudscaleClusterSpec} (h : Extends a b)
    {es : List NetworkStatus} (hes : Keyed.Mirrors (·.name) R a.networks es) :
    Keyed.Mirrors (·.name) R b.networks es := by
  refine hes.mono fun n hn e hne => ?_
  obtain ⟨n', hn', hname, huuid, hcidr, -⟩ := h.networks n hn
  exact ⟨n', hn', hR.kept n n' e hname huuid hcidr hne⟩

/-- What a normal pass has in memory at its end. -/
theorem NormalOver.mirrors (hR : Lasting fits good R) (hpass : NormalOver good before after)
    (hrefers : Refers before.spec) (hfits : fits before.spec)
    (h : Keyed.Mirrors (·.name) R before.spec.networks before.status.networks) :
    Keyed.Mirrors (·.name) R before.spec.networks after.status.networks := by
  obtain ⟨cluster, tr, out, hrun, hgood⟩ := hpass
  have hkept := Mirror.reconcileNormal_keeps cluster (hR.writes _ hrefers hfits)
    (startNormal before) [] (fun _ he => absurd he (by simp)) ⟨rfl, h⟩
  exact (Interaction.runs_of_wpc hkept hrun (by simpa using hgood)).mirrors

/-- Wherever passes are normal passes, entries are about networks of the spec. -/
theorem Evolution.mirrors {σ : Type} {S : Setting σ} {s : σ} (hR : Lasting fits good R)
    (hfits : ∀ {c}, S.keeps c → fits c.spec)
    (hS : ∀ {s before after s'}, S.pass s before after s' → NormalOver good before after)
    (h : Evolution S s vs) :
    ∀ v ∈ vs, Keyed.Mirrors (·.name) R v.spec.networks v.status.networks :=
  h.all (P := fun _ spec status => Keyed.Mirrors (fun e : NetworkStatus => e.name) R spec.networks
    status.networks) {
    create := fun _ _ _ => .nil
    lost := fun _ => .nil
    extend := fun _ hext hm => hR.extends hext hm
    pass := fun _ hproper hkeeps hpass hm =>
      ⟨(hS hpass).mirrors hR hproper.refers (hfits hkeeps) hm, id⟩
    patch := fun hp hs ha => (networks_patched hp).elim (· ▸ hs) (· ▸ ha)
    env := fun _ => id }

theorem normalPasses_pass {first' : CloudscaleCluster}
    (h : (normalPasses ok good).pass first before after first') :
    NormalOver good before after := h.2.2

/-- Every version extends the first. -/
theorem extends_first (h : Evolution (normalPasses ok good) first vs) :
    ∀ v ∈ vs, Extends first.spec v.spec ∧ Proper first.spec := by
  refine h.all (P := fun first spec _ => Extends (CloudscaleCluster.spec first) spec ∧
    Proper (CloudscaleCluster.spec first)) {
    create := ?_
    lost := id
    extend := fun _ hext hfirst => ⟨hfirst.1.trans hext, hfirst.2⟩
    pass := ?_
    patch := fun _ hfirst _ => hfirst
    env := fun henv _ => henv.elim }
  · rintro _ c rfl hproper -
    exact ⟨.refl _, hproper⟩
  · rintro first before after _ - - - ⟨rfl, -⟩ hfirst
    exact ⟨hfirst, id⟩

/-! ## References resolve -/

theorem lasting_cached : Lasting (fun _ => True) Filled CachedFor :=
  ⟨fun _ hrefers _ => writes_cached hrefers, fun _ _ _ hname _ _ h => ⟨h.1.trans hname.symm, h.2⟩⟩

/-- Take any version that was ever stored and a pass over it in which the network step has ended
without error and without a requeue, where identifiers and CIDRs in replies are not empty. The
rest of the pass (`reconcileNormal_eq`) makes the same calls and returns the same with any lookups
that agree with those of the source where the latter succeed: their error branches are never
taken. -/
theorem references_resolve {cluster : Cluster} {tr : Trace} {result : Result}
    {c₁ : CloudscaleCluster} {L : Lookups} (h : Lifetime Filled first vs) (hc : c ∈ vs)
    (hrun : ((reconcileNetwork cluster).exec (startNormal c)).Runs tr (.ok result, c₁))
    (hgood : ∀ e ∈ tr, Filled e.op e.reply) (hzero : result.isZero = true) (hL : Recovers L) :
    (afterNetwork cluster).exec c₁ = (afterNetworkWith L cluster).exec c₁ := by
  have hresolved := resolved_after (c := startNormal c) (h.ordered.proper c hc).refers
    (h.mirrors lasting_cached (fun _ => trivial) normalPasses_pass c hc) hrun hgood hzero
  exact afterNetwork_same hL.suits cluster c₁ hresolved

/-- Lookups that never fail. -/
def lenient : Lookups where
  network c r i := .ok (match Lookups.source.network c r i with
    | .ok ns => ns | .error _ => { name := "" })
  router c r := .ok (match Lookups.source.router c r with
    | .ok rs => rs | .error _ => { name := "" })
  subnet c name := .ok (match safeUseSubnet c name with | .ok id => id | .error _ => "")
  memberSubnet c := .ok (match getPoolMemberSubnetID c with | .ok id => id | .error _ => "")
  memberCIDR c id := .ok (match getMemberSubnetCIDR c id with | .ok cidr => cidr | .error _ => "")

theorem lenient_recovers : Recovers lenient := by
  refine ⟨fun c r i ns h => ?_, fun c r rs h => ?_, fun c name id h => ?_, fun c id h => ?_,
    fun c id cidr h => ?_⟩ <;> simp only [lenient, h]

/-- The network step of a first pass. -/
def networkStep : Trace × Except GoError Result × CloudscaleCluster :=
  (reconcileNetwork { name := "c", ns := "default" }).record networksOnly
    (startNormal storedCluster)

theorem runs_record_ok {m : ClusterM Result} {s : CloudscaleCluster} {reply : (op : Op) → op.Reply}
    {result : Result} (hout : (m.record reply s).2.1 = .ok result) :
    (m.exec s).Runs (m.record reply s).1 (.ok result, (m.record reply s).2.2) := by
  rw [← hout]
  exact Interaction.Proc.runs_record reply m s

theorem networksOnly_filled {m : ClusterM Result} {s : CloudscaleCluster} :
    ∀ e ∈ (m.record networksOnly s).1, Filled e.op e.reply := by
  intro e he
  rw [Interaction.Program.reply_of_mem_record he]
  cases e.op with
  | get k id => cases k <;> exact ⟨rfl, rfl⟩
  | create k req => cases k <;> exact ⟨rfl, rfl⟩
  | _ => exact ⟨rfl, rfl⟩

/-- A first pass that has recorded its network goes on as if no lookup could fail. -/
theorem references_resolve_lenient : networkStep.2.1 = .ok {} ∧
    (afterNetwork { name := "c", ns := "default" }).exec networkStep.2.2 =
      (afterNetworkWith lenient { name := "c", ns := "default" }).exec networkStep.2.2 := by
  have hout : networkStep.2.1 = .ok {} := by decide +kernel
  have hcreated : Lifetime Filled storedCluster [storedCluster] :=
    .create (by decide) (by decide) rfl rfl trivial
  exact ⟨hout, references_resolve hcreated (List.mem_singleton.mpr rfl) (runs_record_ok hout)
    networksOnly_filled rfl lenient_recovers⟩

/-! ## The pool members' network -/

theorem lasting_named : Lasting (fun _ => True) good Named :=
  ⟨fun _ _ _ => writes_named _, fun _ _ _ hname _ _ h => h.trans hname.symm⟩

theorem poolNetwork_extends {a b : CloudscaleClusterSpec} (h : Extends a b) (hb : Refers b)
    (henabled : b.controlPlaneLoadBalancer.isEnabled = true) (hne : a.networks ≠ []) :
    poolNetwork b = poolNetwork a ∧ ∃ n ∈ b.networks, n.name = poolNetwork a := by
  unfold poolNetwork
  rw [← h.loadBalancer]
  by_cases hpool : b.controlPlaneLoadBalancer.poolMemberNetwork = ""
  · by_cases hnet : b.controlPlaneLoadBalancer.network = ""
    · simp only [hpool, hnet, ne_eq, not_true, if_false]
      -- the only network of the older spec is the only one of the newer
      obtain ⟨n, rest, ha⟩ := List.exists_cons_of_ne_nil hne
      obtain ⟨n', hn', hname, -⟩ := h.networks n (by simp [ha])
      rw [eq_singleton (hb.single henabled hnet hpool) hn', ha]
      exact ⟨hname, n', by simp, hname⟩
    · simp only [hpool, ne_eq, not_true, if_false, hnet, not_false_eq_true, if_true, true_and]
      exact hb.network hnet
  · simp only [ne_eq, hpool, not_false_eq_true, if_true, true_and]
    exact hb.poolMemberNetwork hpool

/-- The states of a pass over a version whose pool members are on a network. -/
structure OnPool (name : String) (c : CloudscaleCluster) : Prop where
  refers : Refers c.spec
  enabled : c.spec.controlPlaneLoadBalancer.isEnabled = true
  mirrors : Keyed.Mirrors (·.name) Named c.spec.networks c.status.networks
  network : poolNetwork c.spec = name

theorem OnPool.poolOn {name : String} (h : OnPool name c) : PoolOn name c :=
  h.network ▸ poolSubnet_recorded h.refers h.enabled h.mirrors

theorem OnPool.suits {name : String} {L : Lookups} (hL : ∀ c, PoolOn name c → Agrees L c) :
    Suits L (OnPool name) := by
  refine ⟨fun c c' hview hc => ?_, fun c hc => hL c hc.poolOn⟩
  have hspec : c'.spec = c.spec := congrArg (·.spec) hview
  have hnets : c'.status.networks = c.status.networks := congrArg (·.networks) hview
  exact ⟨hspec ▸ hc.refers, hspec ▸ hc.enabled, hspec ▸ hnets ▸ hc.mirrors, hspec ▸ hc.network⟩

theorem OnPool.keeps (name : String) (cluster : Cluster) :
    Interaction.Keeps (OnPool name) (reconcileNetwork cluster) := by
  intro c hc
  have hwrites : Mirror.Writes (fun _ _ => True) c.spec.networks Named := writes_named _
  have hkept := Mirror.reconcileNetwork_keeps cluster hwrites c [] (fun _ he => absurd he (by simp))
    ⟨rfl, hc.mirrors⟩
  refine Interaction.Contract.wpc_imp (Interaction.Contract.wpc_and hkept
    ((reconcileNetwork_frame cluster).wpc c [])) ?_
  rintro out c' h ⟨hnets, hsame⟩
  have hspec : c'.spec = c.spec := congrArg (·.spec) hsame
  exact ⟨hspec ▸ hc.refers, hspec ▸ hc.enabled, hspec ▸ hnets.mirrors, hspec ▸ hc.network⟩

/-- Take any version that was ever stored of a cluster created with its load balancer enabled,
and let the pool members' network be the one that the first spec says: `poolMemberNetwork`, else
`network`, else its only network. It is a network of the version, which has no other if neither
field is set. The lookup in the stored status finds the subnet recorded for it or fails, and so it
does wherever a pass over the version makes it: the pass is the same with any lookups that agree
with the source's in such states. -/
theorem pool_network_fixed (h : Lifetime (fun _ _ => True) first vs)
    (henabled : first.spec.controlPlaneLoadBalancer.isEnabled = true) : ∀ v ∈ vs,
    (poolNetwork v.spec = poolNetwork first.spec ∧
      ∃ n ∈ v.spec.networks, n.name = poolNetwork first.spec) ∧
    (v.spec.controlPlaneLoadBalancer.network = "" →
      v.spec.controlPlaneLoadBalancer.poolMemberNetwork = "" → v.spec.networks.length = 1) ∧
    PoolOn (poolNetwork first.spec) v ∧
    ∀ (cluster : Cluster) (L : Lookups), (∀ c, PoolOn (poolNetwork first.spec) c → Agrees L c) →
      (reconcileNormal cluster).exec (startNormal v) =
        (reconcileNormalWith L cluster).exec (startNormal v) := by
  intro v hv
  have hrefers := (h.ordered.proper v hv).refers
  have hmirrors := h.mirrors lasting_named (fun _ => trivial) normalPasses_pass v hv
  obtain ⟨hext, hfirst⟩ := extends_first h v hv
  have henabled : v.spec.controlPlaneLoadBalancer.isEnabled = true := hext.loadBalancer ▸ henabled
  have hpool := poolNetwork_extends hext hrefers henabled hfirst.networks
  have hon : OnPool (poolNetwork first.spec) v := ⟨hrefers, henabled, hmirrors, hpool.1⟩
  refine ⟨hpool, fun hnet hmember => ?_, hon.poolOn, fun cluster L hL => ?_⟩
  · have hlen := hrefers.single henabled hnet hmember
    have hpos := List.length_pos_iff.mpr (h.ordered.proper v hv).networks
    omega
  refine reconcileNormal_same (OnPool.suits hL) cluster (OnPool.keeps _ cluster) (startNormal v) ?_
  exact ⟨hrefers, henabled, hmirrors, hpool.1⟩

/-- Lookups that agree with the source's as long as the pool members are on a network. -/
def watching (name : String) : Lookups :=
  { Lookups.source with
    memberSubnet := fun c => match getPoolMemberSubnetID c with
      | .error err => .error err
      | .ok id => if (c.status.getNetworkStatus name).map (·.subnetID) = some id then .ok id
          else .error (errorf "the pool members' network has moved") }

theorem watching_agrees (name : String) (c : CloudscaleCluster) (hc : PoolOn name c) :
    Agrees (watching name) c := by
  refine ⟨fun _ _ _ _ => rfl, fun _ _ => rfl, fun _ _ => rfl, fun _ => ?_, fun _ _ _ => rfl⟩
  simp only [watching]
  cases hid : getPoolMemberSubnetID c with
  | error err => rfl
  | ok id =>
      obtain ⟨e, he, hsubnet⟩ := hc id hid
      simp [he, hsubnet]

/-- A network is added in front of the recorded one. -/
def grownRecorded : CloudscaleCluster :=
  { clusterDefault oneRegion grownCluster with status := recordedVersion.status }

/-- The status is lost after that. -/
def grownReset : CloudscaleCluster := { grownRecorded with status := {} }

theorem grownReset_stored : Lifetime (fun _ _ => True) storedCluster
    [grownReset, grownRecorded, recordedVersion, storedCluster] := by
  have hcreated : Lifetime (fun _ _ => True) storedCluster [storedCluster] :=
    .create (by decide) (by decide) rfl rfl trivial
  have hrun := Interaction.Program.runs_record networksOnly
    (clusterWork { name := "c", ns := "default" } (unpausedCluster storedCluster))
  rw [clusterWork_normal rfl] at hrun
  have hrecorded : Lifetime (fun _ _ => True) storedCluster [recordedVersion, storedCluster] :=
    hcreated.pass List.mem_cons_self ⟨rfl, trivial, _, _, _, hrun, fun _ _ => trivial⟩
      ⟨rfl, .inl rfl, .inr rfl⟩ trivial
  have hgrown : Lifetime (fun _ _ => True) storedCluster
      [grownRecorded, recordedVersion, storedCluster] :=
    hrecorded.update ⟨by decide, by decide, rfl, rfl⟩ rfl trivial
  exact hgrown.touch rfl (.inr rfl) trivial

/-- The next pass goes on with the old network, though another one is now first. -/
theorem pool_network_fixed_reset : grownReset.spec.networks.map (·.name) = ["dmz", "net"] ∧
    poolNetwork grownReset.spec = "net" ∧
    ∀ cluster, (reconcileNormal cluster).exec (startNormal grownReset) =
      (reconcileNormalWith (watching (poolNetwork storedCluster.spec)) cluster).exec
        (startNormal grownReset) := by
  have hfixed := pool_network_fixed grownReset_stored (by decide) grownReset List.mem_cons_self
  exact ⟨by decide, by decide, fun cluster => hfixed.2.2.2 cluster _ (watching_agrees _)⟩

end Capcs.System
