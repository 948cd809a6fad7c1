import Capcs.Readiness.Calls

/-!
# Capcs.Readiness.FloatingIP — the floating IP step

What `reconcileFloatingIP` leaves in status: the address, unless the create timed out,
in which case the field is empty.
-/

namespace Capcs.Readiness

open Cloudscale Controller
open Interaction (Program Proc New history history_perform)
open Interaction.Contract

variable {c c' : CloudscaleCluster} {h h' : Trace} (cluster : Cluster)

theorem getFloatingIPTarget_spec :
    calls.wpc (fun _ c' h' => c' = c ∧ Quiet h h') (getFloatingIPTarget cluster) c h :=
  quiet_of_frame (f := id) (getFloatingIPTarget_within cluster fun _ _ _ => trivial) fun _ => id

theorem ensureFloatingIPAssignment_spec (fip : FloatingIP) :
    calls.wpc (fun _ c' h' => c' = c ∧ Quiet h h') (ensureFloatingIPAssignment cluster fip) c h :=
  quiet_of_frame (f := id) (ensureFloatingIPAssignment_within cluster fip (fun _ _ _ => trivial)
    fun _ _ => trivial) fun _ => id

/-- How the work on the floating IP ends. -/
def FipEnds (c : CloudscaleCluster) (h : Trace) (out : Except GoError Result)
    (c' : CloudscaleCluster) (h' : Trace) : Prop :=
  ∃ ip, c' = setFloatingIP ip c ∧ match out with
    | .error _ => Quiet h h'
    | .ok result =>
      (result.isZero = true ∧ ip ≠ "" ∧ Quiet h h') ∨
      (result.isZero = false ∧ ip = "" ∧ Stops .floatingIP h h')

theorem reconcilePreExistingFloatingIP_spec (ip : String) :
    calls.wpc (fun out c' h' => FipEnds c h (out.map fun _ => {}) c' h')
      (reconcilePreExistingFloatingIP cluster ip) c h := by
  rw [reconcilePreExistingFloatingIP, wpc_bind]
  refine quiet_perform (by simp [PlainOp]) fun r h₁ hr hq => ?_
  cases r with
  | error err => exact ⟨c.status.floatingIP, rfl, hq⟩
  | ok fip =>
      have hip : fip.ip ≠ "" := by simpa [identified, identifiedResource] using hr
      have hadopt : calls.wpc (fun out c' h' => FipEnds c h (out.map fun _ => {}) c' h')
          (reconcilePreExistingFloatingIP.adopt cluster fip) c
          h₁ := by
        rw [reconcilePreExistingFloatingIP.adopt, wpc_update_bind]
        refine wpc_imp (ensureFloatingIPAssignment_spec cluster fip) ?_
        rintro out c₁ h₂ ⟨rfl, hq₁⟩
        refine ⟨fip.ip, rfl, ?_⟩
        cases out with
        | error err => exact hq.trans hq₁
        | ok _ => exact .inl ⟨rfl, hip, hq.trans hq₁⟩
      simp only [after_ok, wpc_bind, wpc_read]
      split
      · split
        · exact ⟨c.status.floatingIP, rfl, hq⟩
        · exact hadopt
      · exact hadopt

theorem createFloatingIP_spec (fipSpec : FloatingIPSpec) (hempty : c.status.floatingIP = "") :
    calls.wpc (FipEnds c h) (createFloatingIP cluster fipSpec) c h := by
  have hself : c = setFloatingIP "" c := by
    rw [← hempty]
    rfl
  rw [createFloatingIP, wpc_read_bind]
  refine wpc_seq (getFloatingIPTarget_spec cluster) ?_
  rintro out c₁ h₁ ⟨rfl, hq⟩
  cases out with
  | error err => exact ⟨"", hself, hq⟩
  | ok target =>
      rw [after_ok]
      refine wpc_seq createResource_spec ?_
      rintro out c₂ h₂ ⟨rfl, hcr⟩
      rcases out with err | result | fip
      · exact ⟨"", hself, hq.trans hcr⟩
      · obtain ⟨rfl, hstop⟩ := hcr
        exact ⟨"", hself, .inr ⟨rfl, rfl, hstop.after hq⟩⟩
      · exact ⟨uuidOf fip, rfl, .inl ⟨rfl, uuidOf_ne_of_identified hcr.1, hq.trans hcr.2⟩⟩

theorem reconcileManagedFloatingIP_spec (fipSpec : FloatingIPSpec) :
    calls.wpc (FipEnds c h) (reconcileManagedFloatingIP cluster fipSpec) c h := by
  rw [reconcileManagedFloatingIP, wpc_read_bind]
  refine wpc_seq ensureResource_spec ?_
  rintro out c₁ h₁ ⟨rfl, hens⟩
  rcases out with err | ⟨_ | fip, id⟩
  · exact ⟨c₁.status.floatingIP, rfl, hens.2 (by simp)⟩
  · obtain ⟨rfl, hq⟩ := hens
    simp only [after_ok, wpc_bind, wpc_update]
    refine wpc_imp (createFloatingIP_spec cluster fipSpec rfl) ?_
    rintro out c₂ h₂ ⟨ip, rfl, hout⟩
    refine ⟨ip, rfl, ?_⟩
    cases out with
    | error err => exact hq.trans hout
    | ok result =>
        rcases hout with ⟨hz, hip, hq₂⟩ | ⟨hz, hip, hstop⟩
        · exact .inl ⟨hz, hip, hq.trans hq₂⟩
        · exact .inr ⟨hz, hip, hstop.after hq⟩
  · obtain ⟨-, hid, -, hq⟩ := hens
    replace hq := hq (by simp)
    simp only [after_ok, wpc_bind, wpc_update, if_pos hid]
    refine wpc_imp (ensureFloatingIPAssignment_spec cluster fip) ?_
    rintro out c₂ h₂ ⟨rfl, hq₂⟩
    cases out with
    | error err => exact ⟨id, rfl, hq.trans hq₂⟩
    | ok _ => exact ⟨id, rfl, .inl ⟨rfl, hid, hq.trans hq₂⟩⟩

/-- The floating IP step, with the condition it writes. -/
theorem reconcileFloatingIP_spec :
    calls.wpc (fun out c' h' =>
        if c.spec.floatingIP.isSome then
          ∃ c₁, c' = setFloatingIPReady out c₁ ∧ FipEnds c h out c₁ h'
        else out = .ok {} ∧ h' = h ∧
          c' = setCondition .floatingIPReady .isTrue .floatingIPDisabled "" c)
      (reconcileFloatingIP cluster) c h := by
  rw [reconcileFloatingIP, wpc_read_bind]
  cases hfip : c.spec.floatingIP with
  | none => exact ⟨rfl, rfl, rfl⟩
  | some fipSpec =>
      simp only [Option.isSome_some, if_true, wpc_deferred, wpc_ite]
      split
      · refine wpc_seq (reconcilePreExistingFloatingIP_spec cluster fipSpec.address) ?_
        intro out c₁ h₁ hend
        cases out with
        | error err => exact ⟨c₁, rfl, hend⟩
        | ok _ => exact ⟨c₁, rfl, hend⟩
      · refine wpc_imp (reconcileManagedFloatingIP_spec cluster fipSpec) ?_
        intro out c₁ h₁ hend
        exact ⟨c₁, rfl, hend⟩

end Capcs.Readiness
