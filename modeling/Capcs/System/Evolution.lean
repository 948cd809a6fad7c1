import Capcs.System.Objects

/-!
# Capcs.System.Evolution — the versions of a cluster

The versions of a cluster that were ever stored. Users edit the spec within what the webhook
admits, delete the object, or restore it without its status. A pass may start from an old version,
and its patch then meets a newer one. What a pass is, and what else there is beside the object, is
the `Setting`.

* `Evolution.ordered` — every version passes the create rules, and the newest extends all of them.
* `Evolution.all` — the rule for what holds of every stored status relative to its spec.
-/

namespace Capcs.System

open Cloudscale Controller Webhook

/-- What there is beside the object: a state that passes change, and others. -/
structure Setting (σ : Type) where
  starts : σ → CloudscaleCluster → Prop
  /-- What all versions have in common. -/
  keeps : CloudscaleCluster → Prop := fun _ => True
  /-- A pass over a version, with what it has in memory at its end. -/
  pass : σ → CloudscaleCluster → CloudscaleCluster → σ → Prop
  /-- Someone else acts. -/
  env : σ → σ → Prop := fun _ _ => False

/-- The state, and the versions stored so far, the newest first. -/
inductive Evolution {σ : Type} (S : Setting σ) : σ → List CloudscaleCluster → Prop where
  | create {ri : RegionInfo} {c : CloudscaleCluster} {s : σ} :
      UniqueKeys (clusterDefault ri c).spec →
      (clusterValidateCreate ri (clusterDefault ri c)).Accepted → c.status = {} →
      S.starts s (clusterDefault ri c) → S.keeps (clusterDefault ri c) →
      Evolution S s [clusterDefault ri c]
  | update {c new : CloudscaleCluster} {vs : List CloudscaleCluster} {s : σ} :
      Evolution S s (c :: vs) → AdmittedUpdate c new → new.status = c.status → S.keeps new →
      Evolution S s (new :: c :: vs)
  /-- The status is lost, or the object changes without its spec and status. -/
  | touch {c new : CloudscaleCluster} {vs : List CloudscaleCluster} {s : σ} :
      Evolution S s (c :: vs) → new.spec = c.spec → new.status = c.status ∨ new.status = {} →
      S.keeps new → Evolution S s (new :: c :: vs)
  | pass {c before after new : CloudscaleCluster} {vs : List CloudscaleCluster} {s s' : σ} :
      Evolution S s (c :: vs) → before ∈ c :: vs → S.pass s before after s' →
      ClusterPatched (unpausedCluster before) after c new → S.keeps new →
      Evolution S s' (new :: c :: vs)
  | env {vs : List CloudscaleCluster} {s s' : σ} :
      Evolution S s vs → S.env s s' → Evolution S s' vs

variable {σ : Type} {S : Setting σ} {s s' : σ} {vs vs' : List CloudscaleCluster}
  {c before after new : CloudscaleCluster} {spec spec' : CloudscaleClusterSpec}
  {status : CloudscaleClusterStatus}

/-! ## The specs -/

/-- A defaulted spec that passes the create rules, with the keys the schema makes unique. -/
structure Proper (spec : CloudscaleClusterSpec) : Prop where
  valid : ∃ ri, clusterSpecValidateCreate spec ri "spec" = []
  enabled : spec.controlPlaneLoadBalancer.enabled.isSome = true
  keys : UniqueKeys spec
  networks : spec.networks ≠ []

theorem Proper.names (h : Proper spec) : (spec.networks.map (·.name)).Nodup := by
  obtain ⟨_, hvalid⟩ := h.valid
  exact networkNames_nodup hvalid

theorem proper_default {ri : RegionInfo} (hkeys : UniqueKeys (clusterDefault ri c).spec)
    (hacc : (clusterValidateCreate ri (clusterDefault ri c)).Accepted) :
    Proper (clusterDefault ri c).spec := by
  refine ⟨⟨ri, hacc⟩, clusterDefault_enabled ri c, hkeys, ?_⟩
  show orDefault [] c.spec.networks _ ≠ []
  unfold orDefault
  split
  · simp
  · assumption

/-- The spec of the next version. -/
theorem Proper.next (h : Proper c.spec) (hnext : new.spec = c.spec ∨ AdmittedUpdate c new) :
    Proper new.spec ∧ Extends c.spec new.spec := by
  rcases hnext with hsame | hadm
  · rw [hsame]
    exact ⟨h, .refl _⟩
  · have hchecks := extends_of_update h.enabled hadm.enabled hadm.accepted
    obtain ⟨ri, hvalid⟩ := h.valid
    refine ⟨⟨⟨ri, validateCreate_of_update hvalid hchecks⟩, hadm.enabled, hadm.keys,
      fun hnone => ?_⟩, hchecks.keeps⟩
    obtain ⟨n, hn⟩ := List.exists_mem_of_ne_nil _ h.networks
    obtain ⟨n', hn', -⟩ := hchecks.keeps.networks n hn
    rw [hnone] at hn'
    cases hn'

/-- What holds of the specs of all versions. -/
structure Ordered (S : Setting σ) (vs : List CloudscaleCluster) : Prop where
  proper : ∀ v ∈ vs, Proper v.spec
  keeps : ∀ v ∈ vs, S.keeps v
  newest : ∀ v ∈ vs, ∀ c ∈ vs.head?, Extends v.spec c.spec

theorem Ordered.cons (h : Ordered S (c :: vs)) (hnext : new.spec = c.spec ∨ AdmittedUpdate c new)
    (hkeeps : S.keeps new) : Ordered S (new :: c :: vs) := by
  obtain ⟨hproper, hext⟩ := (h.proper c List.mem_cons_self).next hnext
  refine ⟨List.forall_mem_cons.mpr ⟨hproper, h.proper⟩,
    List.forall_mem_cons.mpr ⟨hkeeps, h.keeps⟩, ?_⟩
  rintro v hv _ ⟨⟩
  rcases List.mem_cons.mp hv with rfl | hv
  · exact .refl _
  · exact (h.newest v hv c rfl).trans hext

theorem ClusterPatched.next {before' : CloudscaleCluster} (h : ClusterPatched before' after c new) :
    new.spec = c.spec ∨ AdmittedUpdate c new := h.spec.imp_right And.left

theorem Evolution.ordered (h : Evolution S s vs) : Ordered S vs := by
  induction h with
  | create hkeys hacc _ _ hkeeps =>
      have hproper := proper_default hkeys hacc
      refine ⟨by simpa using hproper, by simpa using hkeeps, ?_⟩
      rintro v hv _ ⟨⟩
      exact List.mem_singleton.mp hv ▸ .refl _
  | update _ hadm _ hkeeps ih => exact ih.cons (.inr hadm) hkeeps
  | touch _ hspec _ hkeeps ih => exact ih.cons (.inl hspec) hkeeps
  | pass _ _ _ hp hkeeps ih => exact ih.cons hp.next hkeeps
  | env _ _ ih => exact ih

/-! ## The statuses -/

/-- What can be said of every stored status relative to its spec. -/
structure HoldsAlong (S : Setting σ) (vs : List CloudscaleCluster)
    (P : σ → CloudscaleClusterSpec → CloudscaleClusterStatus → Prop) : Prop where
  create : ∀ {s c}, S.starts s c → Proper c.spec → S.keeps c → P s c.spec {}
  lost : ∀ {s spec status}, P s spec status → P s spec {}
  extend : ∀ {s spec spec' status}, Proper spec' → Extends spec spec' → P s spec status →
    P s spec' status
  /-- A pass does no harm to other versions. -/
  pass : ∀ {s before after s'}, before ∈ vs → Proper before.spec → S.keeps before →
    S.pass s before after s' → P s before.spec before.status → P s' before.spec after.status ∧
      ∀ {spec status}, P s spec status → P s' spec status
  patch : ∀ {s spec before after c new}, ClusterPatched before after c new → P s spec c.status →
    P s spec after.status → P s spec new.status
  env : ∀ {s spec status s'}, S.env s s' → P s spec status → P s' spec status

variable {P : σ → CloudscaleClusterSpec → CloudscaleClusterStatus → Prop}

theorem HoldsAlong.sub (h : HoldsAlong S vs P) (hsub : vs' ⊆ vs) : HoldsAlong S vs' P :=
  { h with pass := fun hmem => h.pass (hsub hmem) }

theorem Evolution.all (h : Evolution S s vs) (hP : HoldsAlong S vs P) :
    ∀ v ∈ vs, P s v.spec v.status := by
  induction h with
  | @create ri c s hkeys hacc hempty hstarts hkeeps =>
      intro v hv
      rw [List.mem_singleton.mp hv, show (clusterDefault ri c).status = {} from hempty]
      exact hP.create hstarts (proper_default hkeys hacc) hkeeps
  | @update c new vs s h hadm hstatus _ ih =>
      have ih := ih (hP.sub (List.subset_cons_self _ _))
      obtain ⟨hproper, hext⟩ := (h.ordered.proper c List.mem_cons_self).next (.inr hadm)
      refine List.forall_mem_cons.mpr ⟨hstatus ▸ ?_, ih⟩
      exact hP.extend hproper hext (ih c List.mem_cons_self)
  | @touch c new vs s _ hspec hstatus _ ih =>
      have ih := ih (hP.sub (List.subset_cons_self _ _))
      refine List.forall_mem_cons.mpr ⟨hspec ▸ ?_, ih⟩
      rcases hstatus with hsame | hlost
      · exact hsame ▸ ih c List.mem_cons_self
      · exact hlost ▸ hP.lost (ih c List.mem_cons_self)
  | @pass c before after new vs s s' h hmem hpass hp _ ih =>
      have ih := ih (hP.sub (List.subset_cons_self _ _))
      have hord := h.ordered
      have hc := hord.proper c List.mem_cons_self
      obtain ⟨hafter, hothers⟩ := hP.pass (List.mem_cons_of_mem _ hmem) (hord.proper before hmem)
        (hord.keeps before hmem) hpass (ih before hmem)
      -- what the pass has in memory is about an older spec, and holds of the newest as well
      have hnew := hP.patch hp (hothers (ih c List.mem_cons_self))
        (hP.extend hc (hord.newest before hmem c rfl) hafter)
      obtain ⟨hproper, hext⟩ := hc.next hp.next
      exact List.forall_mem_cons.mpr ⟨hP.extend hproper hext hnew, fun v hv => hothers (ih v hv)⟩
  | env _ henv ih => exact fun v hv => hP.env henv (ih hP v hv)

end Capcs.System
