import Capcs.Interaction.Sweep
import Capcs.Readiness.Calls

/-!
# Capcs.Teardown.Routers — what a teardown of routers records

`deleteRouters` goes through the router entries, and for each of them through its interface
entries. `IfaceFate` and `RouterFate` say what can happen to one entry, with the calls made for
it, what is left of it and the errors; both loops are sweeps over such fates.

`routers_recorded` reads off the fates what the status says after a teardown, partial or not.
-/

namespace Capcs.Teardown

open Cloudscale Controller
open Readiness (Trace)
open Interaction (Proc Sweep Swept history history_perform)
open Interaction.Contract

/-- A delete that leaves nothing behind: it succeeded, or there was nothing. -/
def gone : Except ApiError Unit → Bool
  | .ok _ => true
  | .error err => isNotFound err

variable {good : (op : Op) → op.Reply → Prop} {c c' : CloudscaleCluster} {h : Trace}

/-! ## Interfaces -/

/-- The interface of an entry is still attached. -/
def live (c : CloudscaleCluster) (router : Router) (iface : RouterInterfaceStatus) : Bool :=
  router.interfaces.any (·.uuid = recordedInterfaceID c router iface)

/-- The interface an entry stands for is attached to the router: the one of the recorded UUID, or
one on the network recorded under the name in the entry. -/
structure StandsFor (c : CloudscaleCluster) (router : Router) (iface : RouterInterfaceStatus)
    (id : String) : Prop where
  recorded : iface.interfaceID ≠ "" → id = iface.interfaceID
  attached : ∃ i ∈ router.interfaces, i.uuid = id ∧ (iface.interfaceID = "" → id ≠ "" →
    ∃ ns, c.status.getNetworkStatus iface.network = some ns ∧ i.network = ns.networkID)

theorem standsFor_of_live {router : Router} {iface : RouterInterfaceStatus}
    (h : live c router iface = true) :
    StandsFor c router iface (recordedInterfaceID c router iface) := by
  obtain ⟨i, hi, hid⟩ := List.any_eq_true.mp h
  have hid : i.uuid = recordedInterfaceID c router iface := by simpa using hid
  by_cases hne : iface.interfaceID = ""
  · refine ⟨fun h => absurd hne h, ?_⟩
    simp only [recordedInterfaceID, hne, ne_eq, not_true, if_false] at hid ⊢
    split at hid
    · exact ⟨i, hi, hid, fun _ h => absurd rfl h⟩
    · next ns hns =>
      cases hlive : liveByNetwork router.interfaces ns.networkID with
      | none => exact ⟨i, hi, by simpa [hlive] using hid, fun _ h => absurd rfl h⟩
      | some l =>
          obtain ⟨hl, hnet⟩ := List.mem_filter.mp (List.mem_of_getLast? hlive)
          exact ⟨l, hl, rfl, fun _ _ => ⟨ns, hns, by simpa using hnet⟩⟩
  · rw [recordedInterfaceID, if_pos hne] at hid ⊢
    exact ⟨fun _ => rfl, i, hi, hid, fun h => absurd h hne⟩

/-- The detach of the interface of an entry. -/
def detach (c : CloudscaleCluster) (rs : RouterStatus) (router : Router)
    (iface : RouterInterfaceStatus) : Op :=
  .deleteInterface rs.routerID (recordedInterfaceID c router iface)

/-- What can happen to the entry of an interface on a router that was found. -/
inductive IfaceFate (c : CloudscaleCluster) (rs : RouterStatus) (router : Router) :
    RouterInterfaceStatus → Trace → Option RouterInterfaceStatus → List GoError → Prop where
  | foreign {iface : RouterInterfaceStatus} : iface.managed = false →
      IfaceFate c rs router iface [] (some iface) []
  | absent {iface : RouterInterfaceStatus} : iface.managed = true → live c router iface = false →
      IfaceFate c rs router iface [] none []
  | detached {iface : RouterInterfaceStatus} {reply : Except ApiError Unit} :
      iface.managed = true → live c router iface = true → gone reply = true →
      IfaceFate c rs router iface [⟨detach c rs router iface, reply⟩] none []
  | failed {iface : RouterInterfaceStatus} {err : ApiError} {e : GoError} :
      iface.managed = true → live c router iface = true → gone (.error err) = false →
      IfaceFate c rs router iface [⟨detach c rs router iface, .error err⟩]
        (some { iface with interfaceID := recordedInterfaceID c router iface }) [e]

variable {rs rs' : RouterStatus} {router : Router} {errs : List GoError} {t : Trace}
  {iface : RouterInterfaceStatus} {reply : Except ApiError Unit}

theorem IfaceFate.errs_eq_nil_iff {o : Option RouterInterfaceStatus}
    (hf : IfaceFate c rs router iface t o errs) : errs = [] ↔ ∀ i ∈ o, i.managed = false := by
  cases hf with
  | foreign hm => simpa using hm
  | absent => simp
  | detached => simp
  | failed hm => simp [hm]

theorem IfaceFate.same {iface x : RouterInterfaceStatus}
    (hf : IfaceFate c rs router iface t (some x) errs) :
    x.network = iface.network ∧ x.managed = iface.managed := by
  cases hf <;> exact ⟨rfl, rfl⟩

/-- The loop of `deleteRouterInterfaces`. -/
theorem detachInterfaces_sweep (rs : RouterStatus) (router : Router)
    (ifaces : List RouterInterfaceStatus) :
    (history good).wpc (Swept (IfaceFate c rs router) (fun _ _ _ => False) ifaces c h)
      (detachInterfaces rs router ifaces) c h := by
  induction ifaces generalizing h with
  | nil => exact ⟨rfl, [], by simp, .inl ⟨[], [], rfl, .nil⟩⟩
  | cons iface rest ih =>
      have hdrop {t : Trace} (hf : IfaceFate c rs router iface t none []) :=
        Swept.drop (h := h) (fun _ _ => False.elim) (fun _ => ih) hf
      rw [detachInterfaces]
      simp only [wpc_ite]
      split
      · next hm =>
        have hf : IfaceFate c rs router iface [] (some iface) [] := .foreign (by simpa using hm)
        exact Swept.keep (fun _ _ => False.elim) (fun _ => ih) (List.append_nil h).symm hf
          fun _ _ => rfl
      · next hm =>
        have hm : iface.managed = true := by simpa using hm
        rw [wpc_read_bind]
        simp only [wpc_ite]
        split
        · next hlive => simpa using hdrop (.absent hm (by simpa [live] using hlive))
        · next hlive =>
          have hlive : live c router iface = true := by simpa [live] using hlive
          rw [wpc_bind]
          refine history_perform fun reply _ => ?_
          -- an interface that was gone already counts as detached
          have hgone : gone reply = true → IfaceFate c rs router iface
              [⟨detach c rs router iface, reply⟩] none [] := .detached hm hlive
          cases reply with
          | ok _ => exact hdrop (hgone rfl)
          | error err =>
              simp only [after_ok, wpc_ite]
              split
              · next hnf => exact hdrop (hgone hnf)
              · next hnf =>
                exact Swept.keep (fun _ _ => False.elim) (fun _ => ih) rfl
                  (.failed hm hlive (by simpa [gone] using hnf)) fun _ _ => rfl

/-- The calls of the loop are detaches, each for a managed entry. -/
theorem sweep_detaches {ifaces left : List RouterInterfaceStatus}
    (hs : Sweep (IfaceFate c rs router) ifaces t left errs) : ∀ e ∈ t, ∃ id,
      e.op = .deleteInterface rs.routerID id ∧
      ∃ i ∈ ifaces, i.managed = true ∧ StandsFor c router i id := by
  intro e he
  obtain ⟨i, hi, t', o, errs', hf, he, -⟩ := hs.of_mem_calls he
  cases hf with
  | foreign => cases he
  | absent => cases he
  | detached hm hlive =>
      obtain rfl := List.mem_singleton.mp he
      exact ⟨_, rfl, i, hi, hm, standsFor_of_live hlive⟩
  | failed hm hlive =>
      obtain rfl := List.mem_singleton.mp he
      exact ⟨_, rfl, i, hi, hm, standsFor_of_live hlive⟩

/-! ## One router -/

/-- The `Get` of a router. -/
def getRouter (rs : RouterStatus) : Op := .get .router rs.routerID

/-- What can happen to the interfaces of a router entry: the calls, the entry with what is left
of its interfaces, and the errors. -/
inductive Pruned (c : CloudscaleCluster) (rs : RouterStatus) :
    Trace → RouterStatus → List GoError → Prop where
  | untouched : hasManagedInterface rs = false → Pruned c rs [] rs []
  | routerGone {err : ApiError} : hasManagedInterface rs = true → isNotFound err = true →
      Pruned c rs [⟨getRouter rs, .error err⟩] { rs with interfaces := [] } []
  | unreachable {err : ApiError} {e : GoError} : hasManagedInterface rs = true →
      isNotFound err = false → Pruned c rs [⟨getRouter rs, .error err⟩] rs [e]
  | swept {router : Router} {t : Trace} {left : List RouterInterfaceStatus} {errs : List GoError} :
      hasManagedInterface rs = true → Sweep (IfaceFate c rs router) rs.interfaces t left errs →
      Pruned c rs (⟨getRouter rs, .ok router⟩ :: t) { rs with interfaces := left } errs

/-- `deleteRouterInterfaces`. -/
theorem deleteRouterInterfaces_pruned (rs : RouterStatus) :
    (history good).wpc (fun out c' h' => c' = c ∧ ∃ t rs' errs, h' = h ++ t ∧
      out = .ok (rs', errs) ∧ Pruned c rs t rs' errs) (deleteRouterInterfaces rs) c h := by
  rw [deleteRouterInterfaces]
  simp only [wpc_ite]
  split
  · next hm => exact ⟨rfl, [], rs, [], by simp, rfl, .untouched (by simpa using hm)⟩
  · next hm =>
    have hm : hasManagedInterface rs = true := by simpa using hm
    rw [wpc_bind]
    refine history_perform fun reply _ => ?_
    cases reply with
    | error err =>
        simp only [after_ok, wpc_ite]
        split
        · next hnf => exact ⟨rfl, _, _, _, rfl, rfl, .routerGone hm hnf⟩
        · next hnf => exact ⟨rfl, _, _, _, rfl, rfl, .unreachable hm (by simpa using hnf)⟩
    | ok router =>
        rw [after_ok]
        refine wpc_seq (detachInterfaces_sweep rs router rs.interfaces) ?_
        rintro out c₁ h₁ ⟨rfl, t, rfl, ⟨left, errs, rfl, hs⟩ | ⟨_, _, ⟨⟩⟩⟩
        exact ⟨rfl, ⟨getRouter rs, .ok router⟩ :: t, _, _, by simp [getRouter], rfl, .swept hm hs⟩

theorem Pruned.same (hp : Pruned c rs t rs' errs) :
    rs'.name = rs.name ∧ rs'.routerID = rs.routerID ∧ rs'.managed = rs.managed := by
  cases hp <;> exact ⟨rfl, rfl, rfl⟩

/-- No errors mean that no managed entry is left. -/
theorem Pruned.errs_eq_nil_iff (hp : Pruned c rs t rs' errs) :
    errs = [] ↔ ∀ i ∈ rs'.interfaces, i.managed = false := by
  cases hp with
  | untouched hm => simpa [hasManagedInterface] using hm
  | routerGone => simp
  | unreachable hm => simpa [hasManagedInterface] using hm
  | swept _ hs => exact hs.errs_eq_nil_iff fun _ _ _ _ hf => hf.errs_eq_nil_iff

/-- What can happen to the entry of a router. -/
inductive RouterFate (c : CloudscaleCluster) :
    RouterStatus → Trace → Option RouterStatus → List GoError → Prop where
  | unrecorded {entry : RouterStatus} : entry.routerID = "" → RouterFate c entry [] none []
  | attached {entry router : RouterStatus} {t : Trace} {errs : List GoError} :
      entry.routerID ≠ "" → Pruned c entry t router errs → errs ≠ [] →
      RouterFate c entry t (some router) errs
  | adopted {entry router : RouterStatus} {t : Trace} : entry.routerID ≠ "" →
      Pruned c entry t router [] → entry.managed = false → RouterFate c entry t (some router) []
  | deleted {entry router : RouterStatus} {t : Trace} {reply : Except ApiError Unit} :
      entry.routerID ≠ "" → Pruned c entry t router [] → entry.managed = true → gone reply = true →
      RouterFate c entry (t ++ [⟨.delete .router entry.routerID, reply⟩]) none []
  | failed {entry router : RouterStatus} {t : Trace} {err : ApiError} {e : GoError} :
      entry.routerID ≠ "" → Pruned c entry t router [] → entry.managed = true →
      gone (.error err) = false →
      RouterFate c entry (t ++ [⟨.delete .router entry.routerID, .error err⟩]) (some router) [e]

theorem RouterFate.pruned {entry x : RouterStatus} (hf : RouterFate c entry t (some x) errs) :
    ∃ t' errs', Pruned c entry t' x errs' := by
  cases hf with
  | attached _ hp _ => exact ⟨_, _, hp⟩
  | adopted _ hp _ => exact ⟨_, _, hp⟩
  | failed _ hp _ _ => exact ⟨_, _, hp⟩

/-- Nothing managed is left of a router entry. -/
def Cleared (rs : RouterStatus) : Prop :=
  rs.managed = false ∧ ∀ i ∈ rs.interfaces, i.managed = false

theorem RouterFate.errs_eq_nil_iff {entry : RouterStatus} {o : Option RouterStatus}
    (hf : RouterFate c entry t o errs) :
    errs = [] ↔ ∀ rs ∈ o, Cleared rs := by
  cases hf with
  | unrecorded => simp
  | attached _ hp hne =>
      rw [iff_false_left hne]
      intro hall
      exact hne (hp.errs_eq_nil_iff.mpr (hall _ rfl).2)
  | adopted _ hp hm =>
      have hleft := hp.errs_eq_nil_iff.mp rfl
      have hm' := hp.same.2.2.trans hm
      simpa using ⟨hm', hleft⟩
  | deleted => simp
  | failed _ hp hm =>
      have hm' := hp.same.2.2.trans hm
      simp [Cleared, hm']

/-- The loop of `deleteRouters`. -/
theorem deleteEachRouter_sweep (entries : List RouterStatus) :
    (history good).wpc (Swept (RouterFate c) (fun _ _ _ => False) entries c h)
      (deleteEachRouter entries) c h := by
  induction entries generalizing h with
  | nil => exact ⟨rfl, [], by simp, .inl ⟨[], [], rfl, .nil⟩⟩
  | cons entry rest ih =>
      have hdrop {t : Trace} (hf : RouterFate c entry t none []) :=
        Swept.drop (h := h) (fun _ _ => False.elim) (fun _ => ih) hf
      have hkeep {t : Trace} {rs : RouterStatus} {es : List GoError}
          {k : List RouterStatus × List GoError → ClusterM (List RouterStatus × List GoError)}
          (hf : RouterFate c entry t (some rs) es) :=
        Swept.keep (k := k) (h := h) (fun _ _ => False.elim) (fun _ => ih) rfl hf
      rw [deleteEachRouter]
      simp only [wpc_ite]
      split
      · next hid => simpa using hdrop (.unrecorded hid)
      · next hid =>
        refine wpc_seq (deleteRouterInterfaces_pruned entry) ?_
        rintro out c₁ h₁ ⟨rfl, t, router, errs, rfl, rfl, hp⟩
        obtain ⟨-, hsameID, hsame⟩ := hp.same
        -- interfaces that are left keep the entry, and so does a router that is not managed
        simp only [after_ok, wpc_ite]
        split
        · next hne => exact hkeep (.attached hid hp hne) fun _ _ => rfl
        · next hne =>
          have hnil : errs = [] := by simpa using hne
          subst hnil
          split
          · next hm =>
            have hf : RouterFate c₁ entry t (some router) [] :=
              .adopted hid hp (by simpa [hsame] using hm)
            exact hkeep hf fun _ _ => rfl
          · next hm =>
            have hm : entry.managed = true := by simpa [hsame] using hm
            rw [wpc_bind]
            refine history_perform fun reply _ => ?_
            rw [hsameID, List.append_assoc]
            -- a router that was gone already counts as deleted
            have hgone : gone reply = true → RouterFate c₁ entry
                (t ++ [⟨.delete .router entry.routerID, reply⟩]) none [] := .deleted hid hp hm
            cases reply with
            | ok _ => exact hdrop (hgone rfl)
            | error err =>
                simp only [after_ok, wpc_ite]
                split
                · next hnf => exact hdrop (hgone hnf)
                · next hnf =>
                  exact hkeep (.failed hid hp hm (by simpa [gone] using hnf)) fun _ _ => rfl

/-! ## The whole step -/

/-- What becomes of errors that are joined. -/
theorem returnJoined_spec (errs : List GoError) :
    (history good).wpc (fun out c' h' => c' = c ∧ h' = h ∧ (out = .ok () ↔ errs = []))
      (returnJoined errs) c h := by
  cases errs with
  | nil => exact ⟨rfl, rfl, by simp⟩
  | cons e errs => exact ⟨rfl, rfl, by simp⟩

/-- `deleteRouters` as a sweep over the entries. -/
theorem deleteRouters_sweep :
    (history good).wpc (fun out c' h' => c'.status.networks = c.status.networks ∧
      ∃ t errs, h' = h ++ t ∧ (out = .ok () ↔ errs = []) ∧
        Sweep (RouterFate c) c.status.routers t c'.status.routers errs) deleteRouters c h := by
  rw [deleteRouters, wpc_deferred, wpc_read_bind]
  refine wpc_seq (deleteEachRouter_sweep c.status.routers) ?_
  rintro out c₁ h₁ ⟨rfl, t, rfl, ⟨left, errs, rfl, hs⟩ | ⟨_, _, ⟨⟩⟩⟩
  simp only [after_ok]
  rw [wpc_update_bind]
  refine wpc_imp (returnJoined_spec errs) ?_
  rintro out c₂ h₂ ⟨rfl, rfl, hout⟩
  cases out <;> exact ⟨rfl, t, errs, rfl, hout, hs⟩

/-- What the status says of a router after a teardown, with the calls made for it. -/
structure RouterRecord (c : CloudscaleCluster) (entry : RouterStatus) (t : Trace)
    (left : Option RouterStatus) : Prop where
  /-- A managed router leaves exactly when it was never recorded or is gone. -/
  leaves : entry.managed = true → (left = none ↔ entry.routerID = "" ∨
    ∃ reply, ⟨.delete .router entry.routerID, reply⟩ ∈ t ∧ gone reply = true)
  /-- An adopted router is not deleted. -/
  deletes : ∀ id reply, ⟨.delete .router id, reply⟩ ∈ t → entry.managed = true ∧ id = entry.routerID
  /-- A router is deleted only when it was found gone or none of its own interfaces is attached. -/
  order : ∀ t₁ t₂ id reply, t = t₁ ++ ⟨.delete .router id, reply⟩ :: t₂ →
    (∃ err, ⟨getRouter entry, .error err⟩ ∈ t₁ ∧ isNotFound err = true) ∨
    ∀ i ∈ entry.interfaces, i.managed = true → ∃ router, ⟨getRouter entry, .ok router⟩ ∈ t₁ ∧
      (live c router i = false ∨
        ∃ reply, ⟨detach c entry router i, reply⟩ ∈ t₁ ∧ gone reply = true)
  /-- An interface is taken off this router, which was read, for a managed entry. -/
  detaches : ∀ routerID id reply, ⟨.deleteInterface routerID id, reply⟩ ∈ t →
    routerID = entry.routerID ∧ ∃ router, ⟨getRouter entry, .ok router⟩ ∈ t ∧
      ∃ i ∈ entry.interfaces, i.managed = true ∧ StandsFor c router i id
  /-- What a router keeps that has no interface of ours. -/
  untouched : hasManagedInterface entry = false → ∀ rs ∈ left, rs = entry
  /-- What a router keeps that was found. -/
  found : ∀ router, ⟨getRouter entry, .ok router⟩ ∈ t → ∀ rs ∈ left, ∃ t₁ t₂ errs,
    t = ⟨getRouter entry, .ok router⟩ :: (t₁ ++ t₂) ∧
      (∀ e ∈ t₂, e.op = .delete .router entry.routerID) ∧
      Sweep (IfaceFate c entry router) entry.interfaces t₁ rs.interfaces errs ∧
      rs = { entry with interfaces := rs.interfaces }
  /-- A router that was not there has no interfaces. -/
  absent : ∀ err, ⟨getRouter entry, .error err⟩ ∈ t → isNotFound err = true →
    ∀ rs ∈ left, rs = { entry with interfaces := [] }
  /-- A router that was not reached is kept as it was. -/
  unreachable : ∀ err, ⟨getRouter entry, .error err⟩ ∈ t → isNotFound err = false →
    left = some entry

theorem Pruned.detaches (hp : Pruned c rs t rs' errs) {routerID id : String}
    (hmem : ⟨.deleteInterface routerID id, reply⟩ ∈ t) :
    routerID = rs.routerID ∧ ∃ router, ⟨getRouter rs, .ok router⟩ ∈ t ∧
      ∃ i ∈ rs.interfaces, i.managed = true ∧ StandsFor c router i id := by
  cases hp with
  | untouched => cases hmem
  | routerGone | unreachable => cases List.mem_singleton.mp hmem
  | @swept router _ _ _ _ hs =>
      rcases List.mem_cons.mp hmem with heq | hmem
      · cases heq
      · obtain ⟨_, ⟨⟩, hentry⟩ := sweep_detaches hs _ hmem
        exact ⟨rfl, router, List.mem_cons_self, hentry⟩

/-- No call for the interfaces is a delete of a router. -/
theorem Pruned.not_delete (hp : Pruned c rs t rs' errs) {id : String} :
    ⟨.delete .router id, reply⟩ ∉ t := by
  intro hmem
  cases hp with
  | untouched => cases hmem
  | routerGone | unreachable => cases List.mem_singleton.mp hmem
  | swept _ hs =>
      rcases List.mem_cons.mp hmem with heq | hmem
      · cases heq
      · obtain ⟨_, hop, -⟩ := sweep_detaches hs _ hmem
        cases hop

/-- Without an error, the router was found gone or none of its own interfaces is attached. -/
theorem Pruned.order (hp : Pruned c rs t rs' []) :
    (∃ err, ⟨getRouter rs, .error err⟩ ∈ t ∧ isNotFound err = true) ∨
    ∀ i ∈ rs.interfaces, i.managed = true → ∃ router, ⟨getRouter rs, .ok router⟩ ∈ t ∧
      (live c router i = false ∨
        ∃ reply, ⟨detach c rs router i, reply⟩ ∈ t ∧ gone reply = true) := by
  cases hp with
  | untouched hm =>
      refine .inr fun i hi hmanaged => ?_
      simp only [hasManagedInterface, List.any_eq_false] at hm
      exact absurd hmanaged (hm i hi)
  | routerGone _ hnf => exact .inl ⟨_, List.mem_singleton.mpr rfl, hnf⟩
  | @swept router t left _ _ hs =>
      refine .inr fun i hi hmanaged => ⟨router, List.mem_cons_self, ?_⟩
      obtain ⟨t', o, errs', hf, ht, -, herrs⟩ := hs.of_mem hi
      cases hf with
      | foreign hm => rw [hm] at hmanaged; cases hmanaged
      | absent _ hlive => exact .inl hlive
      | detached _ _ hgone =>
          exact .inr ⟨_, List.mem_cons_of_mem _ (ht (List.mem_singleton.mpr rfl)), hgone⟩
      | failed => exact absurd (herrs (List.mem_singleton.mpr rfl)) (by simp)

/-- What is left of an entry whose router was found. -/
theorem Pruned.found (hp : Pruned c rs t rs' errs) {router : Router}
    (hget : ⟨getRouter rs, .ok router⟩ ∈ t) :
    ∃ t₁, t = ⟨getRouter rs, .ok router⟩ :: t₁ ∧
      Sweep (IfaceFate c rs router) rs.interfaces t₁ rs'.interfaces errs ∧
      rs' = { rs with interfaces := rs'.interfaces } := by
  cases hp with
  | untouched => cases hget
  | routerGone | unreachable => cases List.mem_singleton.mp hget
  | swept _ hs =>
      rcases List.mem_cons.mp hget with heq | hget
      · cases heq
        exact ⟨_, rfl, hs, rfl⟩
      · obtain ⟨_, hop, -⟩ := sweep_detaches hs _ hget
        cases hop

/-- What is left of an entry whose router was not found. -/
theorem Pruned.missed (hp : Pruned c rs t rs' errs) {err : ApiError}
    (hget : ⟨getRouter rs, .error err⟩ ∈ t) :
    (isNotFound err = true ∧ rs' = { rs with interfaces := [] } ∧ errs = []) ∨
      (isNotFound err = false ∧ rs' = rs ∧ errs ≠ []) := by
  cases hp with
  | untouched => cases hget
  | routerGone _ hnf =>
      cases List.mem_singleton.mp hget
      exact .inl ⟨hnf, rfl, rfl⟩
  | unreachable _ hnf =>
      cases List.mem_singleton.mp hget
      exact .inr ⟨hnf, rfl, by simp⟩
  | swept _ hs =>
      rcases List.mem_cons.mp hget with heq | hget
      · cases heq
      · obtain ⟨_, hop, -⟩ := sweep_detaches hs _ hget
        cases hop

/-- The record of a router that is kept without a call to delete it. -/
theorem Pruned.record {entry router : RouterStatus} (hp : Pruned c entry t router errs)
    (hid : entry.routerID ≠ "") :
    RouterRecord c entry t (some router) where
  leaves _ := by
    refine iff_of_false (by simp) ?_
    rintro (h | ⟨reply, hmem, -⟩)
    · exact hid h
    · exact hp.not_delete hmem
  deletes id reply hmem := absurd hmem hp.not_delete
  order t₁ t₂ id reply heq := by
    have hmem : ⟨.delete .router id, reply⟩ ∈ t := by rw [heq]; simp
    exact absurd hmem hp.not_delete
  detaches _ _ _ hmem := hp.detaches hmem
  untouched hm := by
    rintro rs ⟨⟩
    cases hp with
    | untouched => rfl
    | routerGone hm' | unreachable hm' | swept hm' => simp [hm] at hm'
  found r hget := by
    rintro rs ⟨⟩
    obtain ⟨t₁, ht, hs, hrs⟩ := hp.found hget
    exact ⟨t₁, [], errs, by simpa using ht, by simp, hs, hrs⟩
  absent err hget hnf := by
    rintro rs ⟨⟩
    rcases hp.missed hget with ⟨-, hrs, -⟩ | ⟨hnf', -, -⟩
    · exact hrs
    · rw [hnf] at hnf'; cases hnf'
  unreachable err hget hnf := by
    rcases hp.missed hget with ⟨hnf', -, -⟩ | ⟨-, hrs, -⟩
    · rw [hnf] at hnf'; cases hnf'
    · rw [hrs]

/-- A call before the delete of a router. -/
theorem mem_before_delete {id : String} {op : Op} {r : op.Reply} (hne : op ≠ .delete .router id)
    (hmem : ⟨op, r⟩ ∈ t ++ [⟨.delete .router id, reply⟩]) : ⟨op, r⟩ ∈ t := by
  rcases List.mem_append.mp hmem with hmem | hmem
  · exact hmem
  · cases List.mem_singleton.mp hmem
    exact absurd rfl hne

/-- The record of a router with a call to delete it. -/
theorem Pruned.record_delete {entry router : RouterStatus} (hp : Pruned c entry t router [])
    (hid : entry.routerID ≠ "") (hm : entry.managed = true) {left : Option RouterStatus}
    (hleft : left = if gone reply then none else some router) :
    RouterRecord c entry (t ++ [⟨.delete .router entry.routerID, reply⟩]) left := by
  have hlast : ∀ {id : String} {r : Except ApiError Unit}, ⟨.delete .router id, r⟩ ∈
      t ++ [⟨.delete .router entry.routerID, reply⟩] → id = entry.routerID ∧ r = reply := by
    intro id r hmem
    rcases List.mem_append.mp hmem with hmem | hmem
    · exact absurd hmem hp.not_delete
    · cases List.mem_singleton.mp hmem
      exact ⟨rfl, rfl⟩
  have hrs : ∀ rs ∈ left, rs = router := by
    intro rs hrs
    rw [hleft] at hrs
    split at hrs
    · cases hrs
    · cases hrs
      rfl
  have hbase := hp.record hid
  constructor
  case leaves =>
    intro _
    cases hgone : gone reply with
    | true =>
        have hdel : ⟨.delete .router entry.routerID, reply⟩ ∈
            t ++ [⟨.delete .router entry.routerID, reply⟩] := by simp
        exact iff_of_true (by rw [hleft, hgone]; rfl) (.inr ⟨reply, hdel, hgone⟩)
    | false =>
        refine iff_of_false (by rw [hleft, hgone]; simp) ?_
        rintro (h | ⟨r, hmem, hr⟩)
        · exact hid h
        · rw [(hlast hmem).2, hgone] at hr
          cases hr
  case deletes => exact fun id r hmem => ⟨hm, (hlast hmem).1⟩
  case order =>
    intro t₁ t₂ id r heq
    -- the delete is the last call, so all of `t` comes before it
    have ht : t₁ = t := by
      rcases List.eq_nil_or_concat t₂ with rfl | ⟨t₃, y, rfl⟩
      · exact (List.append_inj' heq rfl).1.symm
      · have heq' : t ++ [⟨.delete .router entry.routerID, reply⟩] =
            (t₁ ++ ⟨.delete .router id, r⟩ :: t₃) ++ [y] := by simpa using heq
        have hmem : ⟨.delete .router id, r⟩ ∈ t := by rw [(List.append_inj' heq' rfl).1]; simp
        exact absurd hmem hp.not_delete
    rw [ht]
    exact hp.order
  case detaches =>
    intro routerID id r hmem
    obtain ⟨hid, router, hget, hentry⟩ := hp.detaches (mem_before_delete (by simp) hmem)
    exact ⟨hid, router, List.mem_append_left _ hget, hentry⟩
  case untouched => exact fun hm' rs hmem => hrs rs hmem ▸ hbase.untouched hm' router rfl
  case found =>
    intro r hget rs hmem
    obtain ⟨t₁, ht, hs, hsame⟩ := hp.found (mem_before_delete (by simp [getRouter]) hget)
    rw [hrs rs hmem]
    exact ⟨t₁, [⟨.delete .router entry.routerID, reply⟩], [], by rw [ht]; simp, by simp, hs, hsame⟩
  case absent =>
    intro err hget hnf rs hmem
    rw [hrs rs hmem]
    exact hbase.absent err (mem_before_delete (by simp [getRouter]) hget) hnf router rfl
  case unreachable =>
    intro err hget hnf
    rcases hp.missed (mem_before_delete (by simp [getRouter]) hget) with ⟨hnf', -, -⟩ | ⟨-, -, hne⟩
    · simp [hnf] at hnf'
    · exact absurd rfl hne

theorem RouterFate.record {entry : RouterStatus} {left : Option RouterStatus}
    (hf : RouterFate c entry t left errs) : RouterRecord c entry t left := by
  cases hf with
  | unrecorded hid =>
      exact ⟨fun _ => iff_of_true rfl
        (.inl hid), by simp, by simp, by simp, by simp, by simp, by simp, by simp⟩
  | attached hid hp _ => exact hp.record hid
  | adopted hid hp _ => exact hp.record hid
  | deleted hid hp hm hgone => exact hp.record_delete hid hm (by rw [hgone]; rfl)
  | failed hid hp hm hgone => exact hp.record_delete hid hm (by rw [hgone]; rfl)

/-- After a teardown of the routers, whatever the calls have returned: the calls are those made
for the entries one after the other, and what is left is recorded in the same order. There is no
error exactly when nothing managed is left. -/
theorem routers_recorded {tr : Trace} {out : Except GoError Unit}
    (hrun : (deleteRouters.exec c).Runs tr (out, c')) :
    (∃ errs : List GoError, Sweep (fun entry t left _ => RouterRecord c entry t left)
      c.status.routers tr c'.status.routers errs) ∧
    (out = .ok () ↔ ∀ rs ∈ c'.status.routers, Cleared rs) := by
  have hspec : (history fun _ _ => True).wpc _ deleteRouters c [] := deleteRouters_sweep
  obtain ⟨-, t, errs, rfl, hout, hs⟩ := Interaction.runs_of_wpc hspec hrun fun _ _ => trivial
  refine ⟨⟨errs, hs.mono fun _ _ _ _ hf => hf.record⟩, ?_⟩
  rw [hout]
  exact hs.errs_eq_nil_iff fun _ _ _ _ hf => hf.errs_eq_nil_iff

/-! ## A teardown that is not finished -/

/-- A cluster with a router of its own, and an adopted router on which the response to an attach
was lost. -/
def twoRouters : CloudscaleCluster :=
  { metadata := { name := "c", ns := "default" }
    status := { networks := [{ name := "n", networkID := "net" }]
                routers := [{ name := "own", routerID := "r1", managed := true },
                  { name := "adopted", routerID := "r2",
                    interfaces := [{ network := "n", managed := true }] }] } }

/-- Neither the delete nor the detach gets through. -/
def refusing : (op : Op) → op.Reply
  | .get .router id => .ok { uuid := id, status := routerActive, zone := "", tags := []
                             interfaces := [{ uuid := "i", network := "net", addresses := [] }] }
  | .get _ _ => .error (.other "")
  | .list _ _ | .create _ _ | .delete _ _ | .listMembers _ | .createMember _ _ | .updateMember _ _ _
  | .deleteMember _ _ | .createInterface _ _ | .deleteInterface _ _ | .updateFloatingIP _ _ =>
    .error (.other "")
  | .listMachines _ _ _ | .getSecret _ _ => .error (.other "")

/-- The teardown of these routers. -/
def refusedTeardown : Trace × (Except GoError Unit × CloudscaleCluster) :=
  deleteRouters.record refusing twoRouters

/-- Both routers stay, and the interface is recorded by the ID it was found under. -/
theorem routers_recorded_refused :
    refusedTeardown.2.2.status.routers = [{ name := "own", routerID := "r1", managed := true },
      { name := "adopted", routerID := "r2",
        interfaces := [{ network := "n", interfaceID := "i", managed := true }] }] ∧
    (∃ errs : List GoError, Sweep (fun entry t left _ => RouterRecord twoRouters entry t left)
      twoRouters.status.routers refusedTeardown.1 refusedTeardown.2.2.status.routers errs) ∧
    (refusedTeardown.2.1 = .ok () ↔ ∀ rs ∈ refusedTeardown.2.2.status.routers, Cleared rs) := by
  refine ⟨by decide +kernel, ?_⟩
  have hrun := deleteRouters.runs_record refusing twoRouters
  exact routers_recorded hrun

end Capcs.Teardown
