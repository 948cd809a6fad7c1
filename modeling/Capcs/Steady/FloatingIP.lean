import Capcs.Steady.LoadBalancer

/-!
# Capcs.Steady.FloatingIP — a floating IP that is settled

The floating IP is recorded under its address and points to where it should (`FloatingIPSettled`).
With a load balancer that is the load balancer, without one it is the first control plane machine
of the list that has a server, so the list has to come in the same order the next time.
-/

namespace Capcs.Steady

open Cloudscale Controller
open Interaction (Proc)
open Interaction.Contract

variable {machines : List CloudscaleMachine} {P P' : Project} {c c' : CloudscaleCluster}
  {cluster : Cluster} {fip : FloatingIP}

/-! ## Targets -/

/-- The target of the floating IP, from the machines there are. -/
def targetOf (c : CloudscaleCluster) (machines : List CloudscaleMachine) :
    Option FloatingIPTarget :=
  if c.spec.controlPlaneLoadBalancer.isEnabled then
    if c.status.loadBalancerID = "" then none else some { lbUUID := c.status.loadBalancerID }
  else
    (machines.find? fun m => m.status.serverID ≠ "").map fun m =>
      { serverUUID := m.status.serverID }

/-- A floating IP that needs no reassignment. -/
def Assigned (c : CloudscaleCluster) (machines : List CloudscaleMachine) (fip : FloatingIP) :
    Prop :=
  ∀ target, targetOf c machines = some target → reassignment target fip = none

/-- A target is a load balancer or a server, not both. -/
theorem targetOf_single {target : FloatingIPTarget} (h : targetOf c machines = some target) :
    target.lbUUID = "" ∨ target.serverUUID = "" := by
  unfold targetOf at h
  split at h
  · split at h
    · cases h
    · cases h
      exact .inr rfl
  · obtain ⟨m, -, rfl⟩ := Option.map_eq_some_iff.mp h
    exact .inl rfl

/-- After the update it is where it should be. -/
theorem reassignment_retarget {target : FloatingIPTarget} {req : FloatingIPUpdateRequest}
    (hsingle : target.lbUUID = "" ∨ target.serverUUID = "")
    (h : reassignment target fip = some req) :
    reassignment target (retarget req fip) = none := by
  unfold reassignment at h
  split at h
  · next hlb =>
    cases h
    have hserver : target.serverUUID = "" := hsingle.resolve_left hlb.1
    simp [reassignment, retarget, hlb.1, hserver]
  · split at h
    · next hserver =>
      cases h
      have hlb : target.lbUUID = "" := hsingle.resolve_right hserver.1
      simp [reassignment, retarget, hlb]
    · cases h

/-- And so it is if it was created there. -/
theorem reassignment_created {target : FloatingIPTarget} {fipSpec : FloatingIPSpec}
    (hsingle : target.lbUUID = "" ∨ target.serverUUID = "")
    (h : AsAsked (k := .floatingIP) (floatingIPCreateRequest c fipSpec target) fip) :
    reassignment target fip = none := by
  obtain ⟨hlb, hserver⟩ := h
  rcases hsingle with hempty | hempty
  · have hset : target.serverUUID ≠ "" → fip.server = some target.serverUUID := by
      simpa [floatingIPCreateRequest, hempty] using hserver
    simp only [reassignment, hempty, ne_eq, not_true_eq_false, false_and, if_false]
    rw [if_neg fun h => h.2 (hset h.1)]
  · have hset : target.lbUUID ≠ "" → fip.loadBalancer = some target.lbUUID := hlb
    simp only [reassignment, hempty, ne_eq, not_true_eq_false, false_and, if_false]
    rw [if_neg fun h => h.2 (hset h.1)]

/-- The status records the floating IP as it is. -/
def FloatingIPSettled (c : CloudscaleCluster) (machines : List CloudscaleMachine) (P : Project) :
    Prop :=
  ∀ fipSpec, c.spec.floatingIP = some fipSpec → ∃ fip,
    P.found .floatingIP c.status.floatingIP = some fip ∧ Assigned c machines fip ∧
    (fipSpec.address ≠ "" → c.status.floatingIP = fipSpec.address ∧
      ∀ region, fip.region = some region → region = c.spec.region)

/-! ## A step that works -/

theorem getFloatingIPTarget_works :
    (works machines).returns (fun target c' P' => c' = c ∧ P' = P ∧ target = targetOf c machines)
      (getFloatingIPTarget cluster) c P := by
  rw [getFloatingIPTarget, returns_read, targetOf]
  split
  · split <;> exact (returns_pure _).mpr ⟨rfl, rfl, rfl⟩
  · refine works_read trivial fun r hans hheard => ?_
    obtain ⟨ms, rfl⟩ := hheard
    obtain rfl : ms = machines := hans.2
    dsimp only
    cases ms.find? fun m => decide (m.status.serverID ≠ "") <;>
      exact (returns_pure _).mpr ⟨rfl, rfl, rfl⟩

/-- An assignment that is done with needs no other. -/
theorem ensureFloatingIPAssignment_settles
    (hfip : P.found .floatingIP c.status.floatingIP = some fip) :
    (works machines).returns (fun _ c' P' => c' = c ∧ Builds P P' ∧
      ∃ fip', P'.found .floatingIP c.status.floatingIP = some fip' ∧ Assigned c machines fip' ∧
        fip'.region = fip.region) (ensureFloatingIPAssignment cluster fip) c P := by
  refine returns_seq getFloatingIPTarget_works ?_
  rintro _ c P ⟨rfl, rfl, rfl⟩
  cases htarget : targetOf c machines with
  | none =>
      refine (returns_pure _).mpr ⟨rfl, .refl _, fip, hfip, fun target h => ?_, rfl⟩
      rw [htarget] at h
      cases h
  | some target =>
      have hassigned {f : FloatingIP} (h : reassignment target f = none) :
          Assigned c machines f := by
        intro target' htarget'
        rw [htarget] at htarget'
        cases htarget'
        exact h
      dsimp only
      cases hreq : reassignment target fip with
      | none => exact (returns_pure _).mpr ⟨rfl, .refl _, fip, hfip, hassigned hreq, rfl⟩
      | some req =>
          -- after the update there is nothing left to reassign
          dsimp only
          rw [returns_read]
          refine works_call fun r P' hans _ => ?_
          cases r with
          | ok u =>
              have hdone : Retargeted P _ req P' := hans
              obtain ⟨f, hf, hf'⟩ := hdone.there
              obtain rfl : f = fip := Option.some.inj (hf.symm.trans hfip)
              refine (returns_pure _).mpr ⟨rfl, hdone.builds, _, hf',
                hassigned (reassignment_retarget (targetOf_single htarget) hreq), ?_⟩
              unfold retarget
              split <;> rfl
          | error e => exact returns_ite (fun _ => returns_fail _) fun _ => returns_fail _

theorem reconcilePreExistingFloatingIP_settles (ip : String) :
    (works machines).returns (fun _ c' P' => Builds P P' ∧ c' = setFloatingIP ip c ∧
      ∃ fip, P'.found .floatingIP ip = some fip ∧ Assigned c machines fip ∧
        ∀ region, fip.region = some region → region = c.spec.region)
      (reconcilePreExistingFloatingIP cluster ip) c P := by
  refine works_read trivial fun r hans _ => ?_
  cases r with
  | error e => exact returns_fail _
  | ok fip =>
      have hip : fip.ip = ip := P.keyed .floatingIP _ _ hans.2
      -- what is left once the region is checked
      have hadopt (hregion : ∀ region, fip.region = some region → region = c.spec.region) :
          (works machines).returns (fun _ c' P' => Builds P P' ∧ c' = setFloatingIP ip c ∧
            ∃ fip', P'.found .floatingIP ip = some fip' ∧ Assigned c machines fip' ∧
              ∀ region, fip'.region = some region → region = c.spec.region)
            (reconcilePreExistingFloatingIP.adopt cluster fip) c P := by
        rw [reconcilePreExistingFloatingIP.adopt, returns_bind, returns_update, hip]
        refine returns_imp (ensureFloatingIPAssignment_settles (c := setFloatingIP ip c) hans.2) ?_
        rintro _ _ P' ⟨rfl, hbuilds, fip', hfip', hassigned, hsame⟩
        exact ⟨hbuilds, rfl, fip', hfip', hassigned, hsame ▸ hregion⟩
      refine returns_read.mpr ?_
      cases hregion : fip.region with
      | none => exact hadopt fun region h => by rw [hregion] at h; cases h
      | some region =>
          refine returns_ite (fun _ => returns_fail _) fun hne => hadopt fun region' h => ?_
          rw [hregion] at h
          cases h
          exact not_not.mp hne

/-- A managed floating IP is found, or created where it should be. -/
theorem reconcileManagedFloatingIP_settles (fipSpec : FloatingIPSpec) :
    (works machines).returns (Ends fun c' P' => Builds P P' ∧ ∃ ip fip, c' = setFloatingIP ip c ∧
      P'.found .floatingIP ip = some fip ∧ Assigned c machines fip)
      (reconcileManagedFloatingIP cluster fipSpec) c P := by
  rw [reconcileManagedFloatingIP, returns_read]
  refine works_ensure (fun fip hfip hne => ?_) ?_
  · dsimp only
    rw [returns_bind, returns_update, if_pos hne]
    refine returns_seq
      (ensureFloatingIPAssignment_settles (c := setFloatingIP (uuidOf fip) c) hfip) ?_
    rintro _ _ P' ⟨rfl, hbuilds, fip', hfip', hassigned, -⟩
    exact (returns_pure _).mpr fun _ => ⟨hbuilds, _, fip', rfl, hfip', hassigned⟩
  · dsimp only
    rw [returns_bind, returns_update, createFloatingIP, returns_read]
    refine returns_seq getFloatingIPTarget_works ?_
    rintro _ _ _ ⟨rfl, rfl, rfl⟩
    refine works_create (fun fip P' hmade => ?_) fun P' => ends_late rfl
    dsimp only
    rw [returns_bind, returns_update, returns_pure]
    refine fun _ => ⟨hmade.builds, fip.ip, fip, rfl, hmade.there, fun target htarget => ?_⟩
    have hasked := hmade.asked
    rw [show targetOf (setFloatingIP "" c) machines = some target from htarget,
      Option.getD_some] at hasked
    exact reassignment_created (targetOf_single htarget) hasked

theorem setFloatingIPReady_still (out : Except GoError Result) (c : CloudscaleCluster) :
    Still c (setFloatingIPReady out c) := by
  cases out <;> exact ⟨_, rfl⟩

/-- A floating IP step that ends well has settled the floating IP, if there is to be one. -/
theorem reconcileFloatingIP_settles :
    (works machines).returns
      (Ends fun c' P' => Builds P P' ∧ (∃ ip, Still (setFloatingIP ip c) c') ∧
      FloatingIPSettled c' machines P') (reconcileFloatingIP cluster) c P := by
  rw [reconcileFloatingIP, returns_read]
  cases hspec : c.spec.floatingIP with
  | none =>
      dsimp only
      rw [returns_bind, returns_update, returns_pure]
      refine fun _ => ⟨.refl P, ⟨c.status.floatingIP, _, rfl⟩, fun fipSpec h => ?_⟩
      have hnone : c.spec.floatingIP = some fipSpec := h
      rw [hspec] at hnone
      cases hnone
  | some fipSpec =>
      refine returns_deferred (returns_ite (fun haddress => ?_) fun haddress => ?_)
      · refine returns_seq (reconcilePreExistingFloatingIP_settles fipSpec.address) ?_
        rintro _ _ P' ⟨hbuilds, rfl, fip, hfip, hassigned, hregion⟩
        refine (returns_pure _).mpr fun _ =>
          ⟨hbuilds, ⟨_, setFloatingIPReady_still _ _⟩, fun fipSpec' h => ?_⟩
        obtain rfl : fipSpec = fipSpec' := Option.some.inj (hspec.symm.trans h)
        exact ⟨fip, hfip, hassigned, fun _ => ⟨rfl, hregion⟩⟩
      · refine returns_imp (reconcileManagedFloatingIP_settles fipSpec) ?_
        intro result c' P' hend hzero
        obtain ⟨hbuilds, ip, fip, rfl, hfip, hassigned⟩ := hend hzero
        refine ⟨hbuilds, ⟨_, setFloatingIPReady_still _ _⟩, fun fipSpec' h => ?_⟩
        obtain rfl : fipSpec = fipSpec' := Option.some.inj (hspec.symm.trans h)
        exact ⟨fip, hfip, hassigned, fun h => absurd h haddress⟩

/-! ## A step that looks -/

/-- The target is the one there was, or the machines could not be listed. -/
theorem looks_target {α : Type} {f : Option FloatingIPTarget → ClusterM α}
    (hf : (looks machines).Preserves (Rests c P) (f (targetOf c machines)))
    (hnone : (looks machines).Preserves (Rests c P) (f none)) :
    (looks machines).Preserves (Rests c P) (getFloatingIPTarget cluster >>= f) := by
  rw [getFloatingIPTarget, bind_assoc]
  refine looks_read fun conditions => ?_
  unfold targetOf at hf
  dsimp only
  split
  case isTrue henabled =>
      rw [if_pos henabled] at hf
      split
      case isTrue hempty =>
          rw [if_pos hempty] at hf
          exact hf
      case isFalse hne =>
          rw [if_neg hne] at hf
          exact hf
  case isFalse henabled =>
      rw [if_neg henabled] at hf
      rw [bind_assoc]
      refine looks_call trivial fun r hans => ?_
      cases r with
      | error e => exact hnone
      | ok ms =>
          obtain rfl : ms = machines := hans.2
          dsimp only
          -- the first machine with a server is the target
          cases hfind : ms.find? fun m => decide (m.status.serverID ≠ "") with
          | none =>
              rw [hfind] at hf
              exact hf
          | some m =>
              rw [hfind] at hf
              exact hf

theorem ensureFloatingIPAssignment_looks (h : Assigned c machines fip) :
    (looks machines).Preserves (Rests c P) (ensureFloatingIPAssignment cluster fip) := by
  refine looks_target ?_ (.pure _)
  cases htarget : targetOf c machines with
  | none => exact .pure _
  | some target =>
      dsimp only
      rw [h target htarget]
      exact .pure _

/-- Over a settled floating IP the floating IP step only looks. -/
theorem reconcileFloatingIP_looks (h : FloatingIPSettled c machines P) :
    (looks machines).Preserves (Rests c P) (reconcileFloatingIP cluster) := by
  have hsame {ip : String} (hip : c.status.floatingIP = ip) :
      (looks machines).Preserves (Rests c P) (Proc.update (setFloatingIP ip) : ClusterM Unit) :=
    looks_same fun conditions => by rw [← hip]; rfl
  refine looks_read fun conditions => ?_
  cases hspec : c.spec.floatingIP with
  | none =>
      refine .bind (.update ?_) fun _ => .pure _
      rintro c'' P' ⟨hstill, rfl⟩
      exact ⟨hstill.setCondition _ _ _ _, rfl⟩
  | some fipSpec =>
      obtain ⟨fip, hfip, hassigned, hadopted⟩ := h fipSpec hspec
      -- adopted by its address, or managed
      refine .deferred (.ite (fun haddress => ?_) fun haddress => ?_) ?_
      · obtain ⟨hip, hregion⟩ := hadopted haddress
        refine .bind (looks_call trivial fun r hans => ?_) fun _ => .pure _
        cases r with
        | error e => exact .fail _
        | ok fip' =>
            obtain rfl : fip' = fip := Option.some.inj (hans.2.symm.trans (hip ▸ hfip))
            have hadopt : (looks machines).Preserves (Rests c P)
                (reconcilePreExistingFloatingIP.adopt cluster fip') :=
              .bind (hsame (P.keyed .floatingIP _ _ hfip).symm)
                fun _ => ensureFloatingIPAssignment_looks hassigned
            refine looks_read fun conditions => ?_
            cases hreg : fip'.region with
            | none => exact hadopt
            | some region => exact .ite (fun _ => .fail _) fun _ => hadopt
      · refine looks_read fun conditions => looks_ensure hfip (.bind (hsame rfl) fun _ => ?_)
        dsimp only
        rw [if_pos (P.ne_empty hfip)]
        exact .bind (ensureFloatingIPAssignment_looks hassigned) fun _ => .pure _
      · rintro out c'' P' ⟨hstill, rfl⟩
        exact ⟨hstill.trans (setFloatingIPReady_still out c''), rfl⟩

end Capcs.Steady
