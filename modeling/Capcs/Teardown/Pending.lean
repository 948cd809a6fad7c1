import Capcs.Teardown.Estate

/-!
# Capcs.Teardown.Pending — what a teardown still has to take away

The status names what a teardown takes away: a managed floating IP, the load balancer, managed
routers and interfaces, managed networks; empty server groups are found by their tags. `pending c`
is all of this. An interface entry without a UUID stands for the interface on its network.

The loops of the teardown clean up what their entries stand for (`Cleans`), whatever the calls
answer: an entry is dropped only when nothing of it is left, and an entry that is rewritten stands
for the same interface as before.
-/

namespace Capcs.Teardown

open Cloudscale Controller
open Interaction (Cleans Sweep allOf allOf_nil allOf_cons allOf_append allOf_singleton)
open Interaction.Program (Accepted accepted_append accepted_cons accepted_nil accepted_singleton)

variable {tags : TagMap} {clean : Prop} {c : CloudscaleCluster} {E E' E₀ : Estate}
  {rs : RouterStatus} {router : Router} {t : Readiness.Trace} {errs : List GoError}

/-! ## Interfaces -/

/-- The interface an entry stands for. -/
def Aims (c : CloudscaleCluster) (i : RouterInterfaceStatus) (x : RouterInterface) : Prop :=
  if i.interfaceID ≠ "" then x.uuid = i.interfaceID
  else ∃ ns, c.status.getNetworkStatus i.network = some ns ∧ x.network = ns.networkID

/-- What goes for an interface entry of a router. -/
def pendingIface (c : CloudscaleCluster) (router : String) (i : RouterInterfaceStatus) :
    Set Asset :=
  {a | i.managed = true ∧ ∃ x, a = .iface router x ∧ Aims c i x}

/-- A router as it was read from an estate that may have shrunk since. -/
structure ReadFrom (E₀ : Estate) (id : String) (router : Router) : Prop where
  exact : ∀ x, x ∈ router.interfaces ↔ .iface id x ∈ E₀.assets

/-- The UUID that is resolved for an entry is that of the interface it stands for. -/
theorem ReadFrom.aims_iff {id : String} (hread : ReadFrom E₀ id router) {x : RouterInterface}
    (hx : .iface id x ∈ E₀.assets) (i : RouterInterfaceStatus) :
    Aims c i x ↔ x.uuid = recordedInterfaceID c router i := by
  rw [Aims, recordedInterfaceID]
  split
  · rfl
  · cases hns : c.status.getNetworkStatus i.network with
    | none => simpa using E₀.named hx
    | some ns =>
        have haims : (∃ ns', some ns = some ns' ∧ x.network = ns'.networkID) ↔
            x.network = ns.networkID := by simp
        rw [haims]
        change _ ↔ x.uuid = (liveByNetwork router.interfaces ns.networkID).elim "" (·.uuid)
        rw [liveByNetwork]
        -- at most one interface is on the network, so the last is the only one
        cases hlast : (router.interfaces.filter fun i => i.network = ns.networkID).getLast? with
        | none =>
            rw [List.getLast?_eq_none_iff, List.filter_eq_nil_iff] at hlast
            have hother := hlast x ((hread.exact x).mpr hx)
            refine iff_of_false (by simpa using hother) ?_
            simpa using E₀.named hx
        | some y =>
            have hy := List.mem_of_getLast? hlast
            rw [List.mem_filter, decide_eq_true_eq] at hy
            have hyE := (hread.exact y).mp hy.1
            constructor
            · intro hnet
              rw [E₀.network_inj hx hyE (hnet.trans hy.2.symm)]
              rfl
            · intro huuid
              rw [E₀.uuid_inj hx hyE huuid, hy.2]

/-- One entry of the loop over interfaces. -/
theorem IfaceFate.cleans (hread : ReadFrom E₀ rs.routerID router) (hsub : E.assets ⊆ E₀.assets)
    {i : RouterInterfaceStatus} {o : Option RouterInterfaceStatus}
    (hf : IfaceFate c rs router i t o errs) (hacc : Accepted (EstateAnswers tags clean) E t E') :
    Cleans (pendingIface c rs.routerID i) (allOf (pendingIface c rs.routerID) o.toList)
      E.assets E'.assets ∧ (clean → errs = []) := by
  cases hf with
  | foreign =>
      rw [accepted_nil.mp hacc, Option.toList_some, allOf_singleton]
      exact ⟨.refl _ _, fun _ => rfl⟩
  | absent _ hlive =>
      rw [accepted_nil.mp hacc, Option.toList_none, allOf_nil]
      refine ⟨.rename fun a ha => iff_of_false ?_ (Set.notMem_empty a), fun _ => rfl⟩
      rintro ⟨-, x, rfl, haims⟩
      have hx := hsub ha
      rw [hread.aims_iff hx] at haims
      simp only [live, List.any_eq_false, decide_eq_true_eq] at hlive
      exact hlive x ((hread.exact x).mpr hx) haims
  | detached hm _ hgone =>
      obtain ⟨htook, hnone⟩ := serves_detach (accepted_singleton.mp hacc).1
      rw [Option.toList_none, allOf_nil]
      refine ⟨htook.cleans ?_ fun a ha => iff_of_false ?_ (Set.notMem_empty a), fun _ => rfl⟩
      · rintro _ ha ⟨x, rfl, huuid⟩
        exact ⟨hm, x, rfl, (hread.aims_iff (hsub ha) i).mpr huuid⟩
      · rintro ⟨-, x, rfl, haims⟩
        exact hnone hgone _ ha ⟨x, rfl, (hread.aims_iff (hsub (htook.1 ha)) i).mp haims⟩
  | @failed err e hm hlive hgone =>
      have hans := accepted_singleton.mp hacc
      obtain ⟨htook, -⟩ := serves_detach hans.1
      rw [Option.toList_some, allOf_singleton]
      -- the UUID that is kept for the retry is not empty: it was found on the router
      have hne : recordedInterfaceID c router i ≠ "" := by
        simp only [live, List.any_eq_true, decide_eq_true_eq] at hlive
        obtain ⟨y, hy, huuid⟩ := hlive
        rw [← huuid]
        exact E₀.named ((hread.exact y).mp hy)
      refine ⟨htook.cleans ?_ ?_, fun hclean => ?_⟩
      · rintro _ ha ⟨x, rfl, huuid⟩
        exact ⟨hm, x, rfl, (hread.aims_iff (hsub ha) i).mpr huuid⟩
      · intro a ha
        constructor
        · rintro ⟨-, x, rfl, haims⟩
          refine ⟨hm, x, rfl, ?_⟩
          rw [Aims, if_pos hne]
          exact (hread.aims_iff (hsub (htook.1 ha)) i).mp haims
        · rintro ⟨-, x, rfl, haims⟩
          rw [Aims, if_pos hne] at haims
          exact ⟨hm, x, rfl, (hread.aims_iff (hsub (htook.1 ha)) i).mpr haims⟩
      · rw [gone_of_fine_detach (hans.2 hclean)] at hgone
        cases hgone

/-! ## Routers -/

/-- What goes for the interface entries of a router entry. -/
def pendingIfaces (c : CloudscaleCluster) (rs : RouterStatus) : Set Asset :=
  allOf (pendingIface c rs.routerID) rs.interfaces

/-- What goes for a router entry. -/
def pendingRouter (c : CloudscaleCluster) (rs : RouterStatus) : Set Asset :=
  {a | rs.routerID ≠ "" ∧
    (a ∈ pendingIfaces c rs ∨ (rs.managed = true ∧ a ∈ belongs .router rs.routerID))}

theorem pendingIfaces_subset (c : CloudscaleCluster) (rs : RouterStatus) :
    pendingIfaces c rs ⊆ belongs .router rs.routerID := by
  rintro _ ⟨i, -, -, x, rfl, -⟩
  exact .inr ⟨x, rfl⟩

/-- A router that has gone has left nothing behind. -/
theorem not_belongs_router {id : String} (h : .resource .router id ∉ E.assets) :
    ∀ a ∈ E.assets, a ∉ belongs .router id := by
  intro a ha hbelongs
  obtain rfl | ⟨x, rfl⟩ := hbelongs
  · exact h ha
  · exact h (E.homed ha)

/-- The interface entries of one router. -/
theorem Pruned.cleans {rs' : RouterStatus} (hp : Pruned c rs t rs' errs)
    (hacc : Accepted (EstateAnswers tags clean) E t E') :
    Cleans (pendingIfaces c rs) (pendingIfaces c rs') E.assets E'.assets ∧ (clean → errs = []) := by
  cases hp with
  | untouched =>
      rw [accepted_nil.mp hacc]
      exact ⟨.refl _ _, fun _ => rfl⟩
  | routerGone _ hnf =>
      obtain ⟨hserves, -⟩ := accepted_singleton.mp hacc
      cases hserves with
      | notGot hnone =>
          refine ⟨.rename fun a ha => iff_of_false ?_ ?_, fun _ => rfl⟩
          · intro hmem
            exact not_belongs_router (hnone hnf) a ha (pendingIfaces_subset c rs hmem)
          · rintro ⟨_, hi, -⟩
            cases hi
      | foreign hf => exact absurd rfl hf
  | unreachable _ hnf =>
      obtain ⟨hserves, hfine⟩ := accepted_singleton.mp hacc
      cases hserves with
      | notGot =>
          refine ⟨.refl _ _, fun hclean => ?_⟩
          have hgone : isNotFound _ = true := hfine hclean
          rw [hnf] at hgone
          cases hgone
      | foreign hf => exact absurd rfl hf
  | swept _ hs =>
      -- the read shows what is attached, and during the loop the estate only shrinks
      obtain ⟨E₁, ⟨hserves, -⟩, hacc⟩ := accepted_cons.mp hacc
      cases hserves with
      | got _ hexact =>
          exact hs.cleans (V := Estate.assets) (I := fun E₁ => E₁.assets ⊆ E.assets)
            (fun _ _ hsub hsub' => hsub'.trans hsub)
            (fun _ _ _ _ _ _ hf hsub hacc => hf.cleans ⟨hexact⟩ hsub hacc) subset_rfl hacc
      | foreign hf => exact absurd rfl hf

/-- A router entry whose interface entries were worked on. -/
theorem Pruned.cleans_router (hid : rs.routerID ≠ "") {rs' : RouterStatus}
    (hp : Pruned c rs t rs' errs) (hacc : Accepted (EstateAnswers tags clean) E t E') :
    Cleans (pendingRouter c rs) (pendingRouter c rs') E.assets E'.assets := by
  obtain ⟨-, hsameID, hsame⟩ := hp.same
  have hsplit : ∀ {rs : RouterStatus}, rs.routerID ≠ "" → pendingIfaces c rs ∪
      {a | rs.managed = true ∧ a ∈ belongs .router rs.routerID} = pendingRouter c rs := by
    intro rs hid
    ext a
    simp [pendingRouter, hid]
  refine ((hp.cleans hacc).1.frame _).congr (hsplit hid) ?_
  rw [← hsameID, ← hsame]
  exact hsplit (hsameID ▸ hid)

/-- One entry of the loop over routers. -/
theorem RouterFate.cleans {o : Option RouterStatus} (hf : RouterFate c rs t o errs)
    (hacc : Accepted (EstateAnswers tags clean) E t E') :
    Cleans (pendingRouter c rs) (allOf (pendingRouter c) o.toList) E.assets E'.assets ∧
      (clean → errs = []) := by
  cases hf with
  | unrecorded hid =>
      rw [accepted_nil.mp hacc, Option.toList_none, allOf_nil]
      refine ⟨.rename fun a _ => iff_of_false ?_ (Set.notMem_empty a), fun _ => rfl⟩
      exact fun hmem => hmem.1 hid
  | attached hid hp _ =>
      rw [Option.toList_some, allOf_singleton]
      exact ⟨hp.cleans_router hid hacc, (hp.cleans hacc).2⟩
  | adopted hid hp _ =>
      rw [Option.toList_some, allOf_singleton]
      exact ⟨hp.cleans_router hid hacc, fun _ => rfl⟩
  | deleted hid hp hm hgone =>
      -- first the interfaces, then the router with what is still attached
      obtain ⟨E₁, hacc₁, hacc₂⟩ := accepted_append.mp hacc
      obtain ⟨htook, hnone, -⟩ := serves_delete (accepted_singleton.mp hacc₂).1
      rw [Option.toList_none, allOf_nil]
      obtain ⟨-, hsameID, hsame⟩ := hp.same
      refine ⟨(hp.cleans_router hid hacc₁).trans
        (htook.cleans ?_ fun a ha => iff_of_false ?_ (Set.notMem_empty a)), fun _ => rfl⟩
      · intro a _ ha
        exact ⟨hsameID ▸ hid, .inr ⟨hsame.trans hm, hsameID ▸ ha⟩⟩
      · rintro ⟨-, hmem | ⟨-, hmem⟩⟩
        · exact hnone hgone a ha (hsameID ▸ pendingIfaces_subset c _ hmem)
        · exact hnone hgone a ha (hsameID ▸ hmem)
  | failed hid hp hm hgone =>
      obtain ⟨E₁, hacc₁, hacc₂⟩ := accepted_append.mp hacc
      have hans := accepted_singleton.mp hacc₂
      rw [Option.toList_some, allOf_singleton]
      obtain ⟨-, hsameID, hsame⟩ := hp.same
      refine ⟨(hp.cleans_router hid hacc₁).trans
        ((serves_delete hans.1).1.cleans ?_ fun _ _ => Iff.rfl), fun hclean => ?_⟩
      · intro a _ ha
        exact ⟨hsameID ▸ hid, .inr ⟨hsame.trans hm, hsameID ▸ ha⟩⟩
      · rw [gone_of_fine (hans.2 hclean)] at hgone
        cases hgone

/-! ## Networks -/

/-- What goes for a network entry. -/
def pendingNetwork (ns : NetworkStatus) : Set Asset :=
  {a | due ns = true ∧ a ∈ belongs .network ns.networkID}

theorem NetFate.cleans {ns : NetworkStatus} {o : Option NetworkStatus} (hf : NetFate ns t o errs)
    (hacc : Accepted (EstateAnswers tags clean) E t E') :
    Cleans (pendingNetwork ns) (allOf pendingNetwork o.toList) E.assets E'.assets ∧
      (clean → errs = []) := by
  cases hf with
  | foreign =>
      rw [accepted_nil.mp hacc, Option.toList_some, allOf_singleton]
      exact ⟨.refl _ _, fun _ => rfl⟩
  | unrecorded _ hid =>
      rw [accepted_nil.mp hacc, Option.toList_none, allOf_nil]
      refine ⟨.rename fun a _ => iff_of_false ?_ (Set.notMem_empty a), fun _ => rfl⟩
      rintro ⟨hdue, -⟩
      simp [due, hid] at hdue
  | deleted hdue _ hgone =>
      obtain ⟨htook, hnone, -⟩ := serves_delete (accepted_singleton.mp hacc).1
      rw [Option.toList_none, allOf_nil]
      refine ⟨htook.cleans (fun a _ ha => ⟨hdue, ha⟩) fun a ha =>
        iff_of_false ?_ (Set.notMem_empty a), fun _ => rfl⟩
      exact fun hmem => hnone hgone a ha hmem.2
  | failed hdue _ hgone =>
      -- a clean estate refuses no delete
      have hans := accepted_singleton.mp hacc
      rw [Option.toList_some, allOf_singleton]
      refine ⟨(serves_delete hans.1).1.cleans (fun a _ ha => ⟨hdue, ha⟩) fun _ _ => Iff.rfl,
        fun hclean => ?_⟩
      rw [gone_of_fine (hans.2 hclean)] at hgone
      cases hgone

/-- A full round over the network entries. -/
theorem sweep_networks_cleans {entries left : List NetworkStatus}
    (hs : Sweep NetFate entries t left errs) (hacc : Accepted (EstateAnswers tags clean) E t E') :
    Cleans (allOf pendingNetwork entries) (allOf pendingNetwork left) E.assets E'.assets ∧
      (clean → errs = []) :=
  hs.cleans (V := Estate.assets) (I := fun _ => True) (fun _ _ _ _ => trivial)
    (fun _ _ _ _ _ _ hf _ hacc => hf.cleans hacc) trivial hacc

/-- A round that stops at a refusal: the entries stay, and what has gone was among them. In a pass
that goes well no round stops. -/
theorem StoppedAt.cleans {entries : List NetworkStatus} (hs : StoppedAt entries t)
    (hacc : Accepted (EstateAnswers tags clean) E t E') :
    Cleans (allOf pendingNetwork entries) (allOf pendingNetwork entries) E.assets E'.assets ∧
      ¬ clean := by
  obtain ⟨before, ns, rest, t₁, left, errs, reply, rfl, hsweep, hdue, hrefused, rfl⟩ := hs.split
  obtain ⟨E₁, hacc₁, hacc₂⟩ := accepted_append.mp hacc
  obtain ⟨hserves, hfine⟩ := accepted_singleton.mp hacc₂
  obtain ⟨htook, -, hnot⟩ := serves_delete hserves
  have hbefore := (sweep_networks_cleans hsweep hacc₁).1.unrecorded
    (B := allOf pendingNetwork (before ++ ns :: rest)) (by
      rw [allOf_append]
      exact Set.subset_union_left)
  refine ⟨hbefore.trans (htook.cleans ?_ fun _ _ => Iff.rfl), fun hclean => ?_⟩
  · intro a _ ha
    exact ⟨ns, by simp, hdue, ha⟩
  · rw [hnot (gone_of_fine (hfine hclean))] at hrefused
    cases hrefused

end Capcs.Teardown
