import Capcs.Retention.Delete

/-!
# Capcs.Retention.Machine — the IDs of a machine

The same two rules for a machine: a normal pass replaces the server or the server group
only if that is missing, and a teardown clears the server only once it is deleted. A
machine starts from any state.
-/

namespace Capcs.Retention

open Cloudscale Controller
open Readiness (CallEvent Trace)
open Interaction (Proc)
open Interaction.Contract

variable {h h' : Trace} {m₀ m : CloudscaleMachine}

/-- Neither ID of `m₀` is lost in `m`. -/
structure KeepsServer (m₀ m : CloudscaleMachine) (h : Trace) : Prop where
  server : Kept .server m₀.status.serverID m.status.serverID h
  serverGroup : Kept .serverGroup m₀.status.serverGroupID m.status.serverGroupID h

theorem KeepsServer.refl (m : CloudscaleMachine) (h : Trace) : KeepsServer m m h :=
  ⟨.refl _ _ _, .refl _ _ _⟩

theorem KeepsServer.later (hk : KeepsServer m₀ m h) (hle : h ⊆ h') : KeepsServer m₀ m h' :=
  ⟨hk.server.later hle, hk.serverGroup.later hle⟩

theorem KeepsServer.setCondition (hk : KeepsServer m₀ m h) (t : ConditionType)
    (status : ConditionStatus) (reason : Reason) (message : String) :
    KeepsServer m₀ (setMachineCondition t status reason message m) h := ⟨hk.server, hk.serverGroup⟩

/-- A step of a pass over a machine loses no ID. -/
abbrev MachineSafe {α : Type} (m₀ : CloudscaleMachine) (p : MachineM α) : Prop :=
  echoCalls.Preserves (KeepsServer m₀) p

/-! ## The server group -/

/-- A group is looked for where none is recorded. -/
theorem findOrCreateServerGroup_keeps (cluster : CloudscaleCluster) (groupName : String)
    (hk : KeepsServer m₀ m h) (hempty : m.status.serverGroupID = "") :
    echoCalls.wpc (fun _ => KeepsServer m₀) (findOrCreateServerGroup cluster groupName) m h := by
  have hset {h' : Trace} {id : String} (hk : KeepsServer m₀ m h') :
      KeepsServer m₀ (setServerGroupID id m) h' :=
    ⟨hk.server, (hempty ▸ hk.serverGroup).fresh id⟩
  rw [findOrCreateServerGroup]
  refine wpc_seq (perform_grows (.list .serverGroup (clusterOwnershipTags cluster))) ?_
  rintro out m h₁ ⟨rfl, hle⟩
  rcases out with err | err | groups
  · exact hk.later hle
  · exact hk.later hle
  · simp only [after_ok]
    split
    · exact hset (hk.later hle)
    · refine wpc_seq (createResource_grows (k := .serverGroup)) ?_
      rintro out m h₂ ⟨rfl, hle₂⟩
      have hk₂ := hk.later (List.Subset.trans hle hle₂)
      rcases out with err | result | group
      · exact hk₂
      · exact hk₂
      · exact hset hk₂

theorem reconcileServerGroup_safe (cluster : CloudscaleCluster) :
    MachineSafe m₀ (reconcileServerGroup cluster) := by
  refine .deferred (.read fun m h hinv hk => ?_) ?_
  · split
    · exact hk
    rw [wpc_ite]
    split
    · next hempty => exact findOrCreateServerGroup_keeps cluster _ hk hempty
    rw [wpc_bind]
    refine Interaction.history_perform fun r _ => ?_
    have hle : h ⊆ h ++ [⟨.get .serverGroup m.status.serverGroupID, r⟩] :=
      List.subset_append_left _ _
    cases r with
    | ok _ => exact hk.later hle
    | error err =>
        simp only [after_ok, wpc_ite]
        split
        · next hnf =>
          -- the group is missing, and the reference is cleared before the search
          have hmissing : Missing .serverGroup m.status.serverGroupID
              (h ++ [⟨.get .serverGroup m.status.serverGroupID, .error err⟩]) :=
            ⟨err, hnf, List.mem_append_right _ (List.mem_singleton.mpr rfl)⟩
          rw [wpc_update_bind]
          refine findOrCreateServerGroup_keeps cluster _ ⟨(hk.later hle).server, ?_⟩ rfl
          exact (hk.later hle).serverGroup.trans (.inr (.inr hmissing))
        · exact hk.later hle
  · intro out m h hk
    cases out <;> exact hk.setCondition _ _ _ _

/-! ## The server -/

/-- A server is recorded where none was. -/
theorem adoptServer_keeps (server : Server) (hk : KeepsServer m₀ m h)
    (hempty : m.status.serverID = "") :
    echoCalls.wpc (fun _ => KeepsServer m₀) (adoptServer server) m h :=
  show KeepsServer m₀ (updateMachineFromServer server (setServerID server.uuid m)) h from
    ⟨(hempty ▸ hk.server).fresh _, hk.serverGroup⟩

theorem getBootstrapData_reads (s : MachineScope) : OnlyReads (getBootstrapData s) :=
  reads_of_frame (getBootstrapData_frame (P := fun _ => True) s fun _ _ => trivial)

theorem createServer_keeps (s : MachineScope) (hinv : echoCalls.inv h) (hk : KeepsServer m₀ m h)
    (hempty : m.status.serverID = "") :
    echoCalls.wpc (fun _ => KeepsServer m₀) (createServer s) m h := by
  rw [createServer]
  refine wpc_seq (wpc_wrapped ((getBootstrapData_reads s).wpc hinv) fun _ _ _ => id) ?_
  rintro out m h₁ ⟨rfl, hle⟩
  cases out with
  | error err => exact hk.later hle
  | ok data =>
      rw [after_ok, wpc_read_bind]
      split
      · exact hk.later hle
      · refine wpc_seq (createResource_grows (k := .server)) ?_
        rintro out m h₂ ⟨rfl, hle₂⟩
        have hk₂ := hk.later (List.Subset.trans hle hle₂)
        rcases out with err | result | server
        · exact hk₂
        · exact hk₂
        · exact adoptServer_keeps server hk₂ hempty

theorem findServer_keeps (s : MachineScope) (hinv : echoCalls.inv h) (hk : KeepsServer m₀ m h)
    (hempty : m.status.serverID = "") :
    echoCalls.wpc (fun _ => KeepsServer m₀) (findServer s) m h := by
  rw [findServer, wpc_read_bind]
  refine wpc_seq_inv hinv (perform_grows (.list .server (machineLookupTag s m))) ?_
  rintro out m h₁ hinv₁ ⟨rfl, hle⟩
  rcases out with err | err | _ | ⟨server, _ | ⟨_, _⟩⟩
  · exact hk.later hle
  · exact hk.later hle
  · exact createServer_keeps s hinv₁ (hk.later hle) hempty
  · exact adoptServer_keeps server (hk.later hle) hempty
  · exact hk.later hle

theorem serverBody_safe (s : MachineScope) : MachineSafe m₀ (serverBody s) := by
  refine .read fun m h hinv hk => ?_
  rw [wpc_ite]
  split
  · next hempty => exact findServer_keeps s hinv hk hempty
  refine wpc_seq (perform_grows (.get .server m.status.serverID)) ?_
  rintro out m h₁ ⟨rfl, hle⟩
  rcases out with err | err | server
  · exact hk.later hle
  · simp only [after_ok, wpc_ite]
    split
    · exact (hk.later hle).setCondition _ _ _ _
    · exact hk.later hle
  · exact ⟨(hk.later hle).server, (hk.later hle).serverGroup⟩

/-! ## The passes -/

/-- A normal pass over a machine loses no ID, whatever the API answers. -/
theorem machineReconcileNormal_safe (s : MachineScope) :
    MachineSafe m₀ (machineReconcileNormal s) :=
  machineReconcileNormal_preserves
    ⟨fun _ _ _ _ _ _ _ hk => hk.setCondition _ _ _ _, fun _ _ _ hk => ⟨hk.server, hk.serverGroup⟩⟩
    (reconcileServerGroup_safe _) (serverBody_safe s)

/-- A teardown of a machine clears its server only once that is deleted. -/
theorem machineReconcileDelete_holds (hinv : echoCalls.inv h) :
    echoCalls.wpc (fun _ m' h' => Held .server m.status.serverID m'.status.serverID h')
      machineReconcileDelete m h := by
  have hstep : echoCalls.Preserves
      (fun m' h' => Held .server m.status.serverID m'.status.serverID h')
        machineReconcileDelete := by
    refine .bind (.update fun _ _ hk => hk) fun _ => .bind (.wrapErr (.deferred ?_ ?_)) fun _ => ?_
    · refine .read fun m' h hinv hk => ?_
      rw [wpc_ite]
      split
      · exact hk
      refine wpc_seq (svcDelete_removed .server m'.status.serverID) ?_
      rintro out m' h' ⟨rfl, hle, hremoved⟩
      -- the ID is cleared after a delete that leaves nothing behind
      rcases out with err | err | _
      · exact hk.later hle
      · simp only [after_ok, wpc_ite]
        split
        · next hnf => exact (hk.later hle).trans (.inr (.inr (hremoved _ rfl hnf)))
        · exact hk.later hle
      · exact (hk.later hle).trans (.inr (.inr (hremoved _ rfl rfl)))
    · intro out m' h' hk
      cases out <;> exact hk
    · refine .bind (.update fun m' _ hk => ?_) fun _ => ?_
      · rw [deleteServerGroup]
        split <;> exact hk
      · refine .bind (.update fun _ _ hk => hk) fun _ => ?_
        exact .bind (.update fun _ _ hk => hk) fun _ => .pure _
  exact hstep m h hinv (.refl _ _ _)

end Capcs.Retention
