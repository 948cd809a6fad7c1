import Capcs.Teardown.Chain

/-!
# Capcs.Interfaces.Detach — which interfaces a teardown detaches

A teardown detaches the interfaces that have managed entries, and what it leaves of the
entries is what was there, at most with a UUID filled in. Both are read off the sweep over the
routers.
-/

namespace Capcs.Interfaces

open Cloudscale Controller
open Readiness (CallEvent Trace)
open Teardown

/-! ## Entries -/

/-- What is left of the entry of an interface. -/
structure IfaceLeft (i i' : RouterInterfaceStatus) : Prop where
  network : i'.network = i.network
  managed : i'.managed = i.managed
  interfaceID : i.interfaceID ≠ "" → i'.interfaceID = i.interfaceID

theorem IfaceLeft.refl (i : RouterInterfaceStatus) : IfaceLeft i i := ⟨rfl, rfl, fun _ => rfl⟩

/-- What is left of the entry of a router. -/
structure RouterLeft (e e' : RouterStatus) : Prop where
  name : e'.name = e.name
  routerID : e'.routerID = e.routerID
  managed : e'.managed = e.managed
  interfaces : ∀ i' ∈ e'.interfaces, ∃ i ∈ e.interfaces, IfaceLeft i i'

theorem RouterLeft.refl (e : RouterStatus) : RouterLeft e e :=
  ⟨rfl, rfl, rfl, fun i hi => ⟨i, hi, .refl i⟩⟩

theorem pruned_left {c : CloudscaleCluster} {rs rs' : RouterStatus} {t : Trace}
    {errs : List GoError} (hp : Pruned c rs t rs' errs) : RouterLeft rs rs' := by
  obtain ⟨hname, hid, hmanaged⟩ := hp.same
  refine ⟨hname, hid, hmanaged, ?_⟩
  cases hp with
  | untouched => exact fun i hi => ⟨i, hi, .refl i⟩
  | unreachable => exact fun i hi => ⟨i, hi, .refl i⟩
  | routerGone => simp
  | swept _ hs =>
      intro i' hi'
      obtain ⟨i, hi, _, _, hf⟩ := hs.of_mem_left hi'
      refine ⟨i, hi, hf.same.1, hf.same.2, fun hne => ?_⟩
      cases hf with
      | foreign => rfl
      | failed => exact if_pos hne

/-- What is left of some entries. -/
def EntriesLeft (entries entries' : List RouterStatus) : Prop :=
  ∀ e' ∈ entries', ∃ e ∈ entries, RouterLeft e e'

/-! ## Detaches -/

variable {c c₁ c' : CloudscaleCluster} {t t' : Trace} {cluster : Cluster}

/-- A detach is from a router that was read, of the interface that a managed entry stands for. -/
def Explained (c : CloudscaleCluster) (t : Trace) (routerID iface : String) : Prop :=
  ∃ e ∈ c.status.routers, e.routerID = routerID ∧ ∃ router,
    ⟨.get .router routerID, .ok router⟩ ∈ t ∧
    ∃ i ∈ e.interfaces, i.managed = true ∧ StandsFor c router i iface

/-- What a teardown does to the entries, and with them. -/
structure Detached (c c' : CloudscaleCluster) (t : Trace) : Prop where
  left : EntriesLeft c.status.routers c'.status.routers
  detaches : ∀ routerID iface reply, ⟨.deleteInterface routerID iface, reply⟩ ∈ t →
    Explained c t routerID iface

/-- The step that does it. -/
theorem deleteRouters_detached {out : Except GoError Unit}
    (hrun : (deleteRouters.exec c).Runs t (out, c')) : Detached c c' t := by
  obtain ⟨-, errs, -, hs⟩ := deleteRouters_runs hrun
  refine ⟨fun e' he' => ?_, fun routerID iface reply hev => ?_⟩
  · obtain ⟨e, he, _, _, hf⟩ := hs.of_mem_left he'
    obtain ⟨_, _, hp⟩ := hf.pruned
    exact ⟨e, he, pruned_left hp⟩
  · obtain ⟨e, he, t', _, _, hf, hev, hsub⟩ := hs.of_mem_calls hev
    obtain ⟨rfl, router, hget, hentry⟩ := hf.record.detaches _ _ _ hev
    exact ⟨e, he, rfl, router, hsub hget, hentry⟩

/-- The other steps. -/
theorem Detached.nothing (hrouters : c'.status.routers = c.status.routers)
    (ht : ∀ ev ∈ t, slotOf ev.op ≠ some .routers) : Detached c c' t :=
  ⟨hrouters ▸ fun e he => ⟨e, he, .refl e⟩, fun _ _ _ hev => absurd rfl (ht _ hev)⟩

theorem Detached.before (hd : Detached c₁ c' t') (hnets : c₁.status.networks = c.status.networks)
    (hrouters : c₁.status.routers = c.status.routers)
    (ht : ∀ ev ∈ t, slotOf ev.op ≠ some .routers) :
    Detached c c' (t ++ t') := by
  refine ⟨hrouters ▸ hd.left, fun routerID iface reply hev => ?_⟩
  have hev := (List.mem_append.mp hev).resolve_left fun hev => ht _ hev rfl
  obtain ⟨e, he, hid, router, hget, i, hi, hm, hrecorded, l, hl, huuid, hnet⟩ :=
    hd.detaches routerID iface reply hev
  refine ⟨e, hrouters ▸ he, hid, router, List.mem_append_right t hget, i, hi, hm, hrecorded, l, hl,
    huuid, fun hempty hne => ?_⟩
  obtain ⟨ns, hns, hnet⟩ := hnet hempty hne
  rw [CloudscaleClusterStatus.getNetworkStatus, hnets] at hns
  exact ⟨ns, hns, hnet⟩

theorem Detached.after (hd : Detached c c₁ t) (hrouters : c'.status.routers = c₁.status.routers)
    (ht : ∀ ev ∈ t', slotOf ev.op ≠ some .routers) : Detached c c' (t ++ t') := by
  refine ⟨hrouters ▸ hd.left, fun routerID iface reply hev => ?_⟩
  have hev := (List.mem_append.mp hev).resolve_right fun hev => ht _ hev rfl
  obtain ⟨e, he, hid, router, hget, hentry⟩ := hd.detaches routerID iface reply hev
  exact ⟨e, he, hid, router, List.mem_append_left t' hget, hentry⟩

/-- A walk with the steps in this order: the routers are next to last. -/
theorem Chain.detached {first steps : List Slot} {b : Bool} (hc : Chain cluster steps c t b c')
    (hsteps : steps = first ++ [.routers, .networks])
    (hfirst : ∀ s ∈ first, s ≠ .routers ∧ s ≠ .networks) : Detached c c' t := by
  have hfree {s : Slot} {c c' : CloudscaleCluster} {t : Trace} (hf : StepFrame s c c' t)
      (hs : s ≠ .routers) : ∀ ev ∈ t, slotOf ev.op ≠ some .routers :=
    fun ev hev heq => hs (hf.deletes ev hev _ heq).symm
  -- the steps in `first` change no entry of a router or network
  induction first generalizing steps c t with
  | nil =>
      subst hsteps
      cases hc with
      | failed hrun => exact deleteRouters_detached hrun
      | next hrun hrest =>
          have hd := deleteRouters_detached hrun
          cases hrest with
          | failed hrun =>
              have hf := step_frame hrun
              exact hd.after (hf.routers (by decide)) (hfree hf (by decide))
          | next hrun hdone =>
              have hf := step_frame hrun
              cases hdone
              rw [List.append_nil]
              exact hd.after (hf.routers (by decide)) (hfree hf (by decide))
  | cons s first ih =>
      subst hsteps
      obtain ⟨hs, hs'⟩ := hfirst s List.mem_cons_self
      cases hc with
      | failed hrun =>
          have hf := step_frame hrun
          exact .nothing (hf.routers hs) (hfree hf hs)
      | next hrun hrest =>
          have hf := step_frame hrun
          have hd := ih hrest rfl fun s hs => hfirst s (List.mem_cons_of_mem _ hs)
          exact hd.before (hf.networks hs') (hf.routers hs) (hfree hf hs)

/-- A teardown detaches what managed entries stand for, and prunes the entries. -/
theorem reconcileDelete_detached {out : Except GoError Result}
    (hrun : ((reconcileDelete cluster).exec c).Runs t (out, c')) : Detached c c' t := by
  obtain ⟨b, c₁, hchain, rfl⟩ := reconcileDelete_chain hrun
  have hfirst : ∀ s ∈ [Slot.floatingIP, .loadBalancer, .serverGroups], s ≠ .routers ∧
      s ≠ .networks := by
    decide
  have hd := (Chain.detached hchain rfl hfirst).before (t := []) (c := c) rfl rfl (by simp)
  exact ⟨by split <;> exact hd.left, hd.detaches⟩

end Capcs.Interfaces
