import Capcs.Controller.Frames
import Capcs.Ownership.Calls

/-!
# Capcs.Ownership.Machine — passes over a CloudscaleMachine

The same for machines: `MachineOK` relates the in-memory `CloudscaleMachine` to the
cloud. The server is looked up by a tag of its own, and created only if that tag
selects nothing; server groups are shared and never deleted from here.
-/

namespace Capcs.Ownership

open Cloudscale Controller
open Interaction (Contract Proc)
open Interaction.Contract

variable {ι : Type} {slot : Slots ι} {R : Role ι} {clean : Prop} {s : MachineScope}
  {m₀ m : CloudscaleMachine} {w w' : World ι}

/-! ## Tags -/

/-- The tag the server of a machine is looked up with. -/
def serverTags (cluster : Cluster) (name : String) : TagMap :=
  [(nameCloudscaleProviderOwned ++ cluster.name,
    cluster.ns ++ "/" ++ cluster.name ++ "/" ++ name)]

/-- The role fits the machine: the tags of its server select it and are its own, and
so are the tags of the server groups. -/
structure MachineFits (slot : Slots ι) (R : Role ι) (s : MachineScope) (name : String)
    (tags : TagMap) : Prop where
  isSlot : slot R.owner .server (serverTags s.cluster name)
  turf : R.turf .server (serverTags s.cluster name)
  self : matchesTags (serverTags s.cluster name) (tags ++ serverTags s.cluster name)
  only : ∀ o' t', slot o' .server t' → matchesTags t' (tags ++ serverTags s.cluster name) →
    o' = R.owner ∧ t' = serverTags s.cluster name
  group : slot R.owner .serverGroup (clusterOwnershipTags s.cloudscaleCluster)
  groupSelf : matchesTags (clusterOwnershipTags s.cloudscaleCluster)
    (clusterOwnershipTags s.cloudscaleCluster)
  groupOnly : ∀ o' t', slot o' .serverGroup t' →
    matchesTags t' (clusterOwnershipTags s.cloudscaleCluster) →
    o' = R.owner ∧ t' = clusterOwnershipTags s.cloudscaleCluster

/-! ## The status of a machine -/

/-- Everything of kind `server` created for the owner and still there is the
recorded one. -/
def ServerRecorded (R : Role ι) (serverID : String) (w : World ι) : Prop :=
  ∀ i ∈ w.cloud .server, (R.owner, .server, i.uuid) ∈ w.created → serverID = i.uuid

/-- The machine is in order. Only the status and the provider ID may differ from
how the pass found it. -/
structure MachineOK (slot : Slots ι) (R : Role ι) (clean : Prop) (s : MachineScope)
    (m₀ m : CloudscaleMachine) (w : World ι) : Prop where
  metadata : m.metadata = m₀.metadata
  spec : m.spec = { m₀.spec with providerID := m.spec.providerID }
  fits : MachineFits slot R s m₀.metadata.name m₀.spec.tags
  server : Own w R.owner .server m.status.serverID
  recorded : clean → ServerRecorded R m.status.serverID w

namespace MachineOK

theorem tags_eq (h : MachineOK slot R clean s m₀ m w) : m.spec.tags = m₀.spec.tags := by
  rw [h.spec]

theorem move (h : MachineOK slot R clean s m₀ m w) (hg : Remembers R.owner w w')
    (hrec : clean → ServerRecorded R m.status.serverID w') : MachineOK slot R clean s m₀ m w' :=
  ⟨h.metadata, h.spec, h.fits, h.server.grows hg, hrec⟩

theorem later (h : MachineOK slot R clean s m₀ m w) (hl : Later R clean w w') :
    MachineOK slot R clean s m₀ m w' :=
  h.move hl.grows fun hc => (hl.2 hc) ▸ h.recorded hc

/-- Fields the invariant does not read may change freely. -/
theorem edit (h : MachineOK slot R clean s m₀ m w) {m' : CloudscaleMachine}
    (hmeta : m'.metadata = m.metadata)
    (hspec : m'.spec = { m.spec with providerID := m'.spec.providerID })
    (hid : m'.status.serverID = m.status.serverID) : MachineOK slot R clean s m₀ m' w := by
  refine ⟨hmeta.trans h.metadata, ?_, h.fits, hid ▸ h.server, fun hc => hid ▸ h.recorded hc⟩
  rw [hspec, h.spec]

theorem setCondition (h : MachineOK slot R clean s m₀ m w) (t : ConditionType)
    (status : ConditionStatus) (reason : Reason) (message : String) :
    MachineOK slot R clean s m₀ (setMachineCondition t status reason message m) w :=
  h.edit rfl rfl rfl

/-- Recording a server: every server of the machine is that one. -/
theorem setServerID (h : MachineOK slot R clean s m₀ m w) {id : String}
    (hown : Own w' R.owner .server id) (hrec : clean → ServerRecorded R id w') :
    MachineOK slot R clean s m₀ (Controller.setServerID id m) w' :=
  ⟨h.metadata, h.spec, h.fits, hown, hrec⟩

end MachineOK

/-- A step keeps the machine in order. -/
abbrev MachineKeeps {α : Type} (slot : Slots ι) (R : Role ι) (clean : Prop) (s : MachineScope)
    (m₀ : CloudscaleMachine) (p : MachineM α) : Prop :=
  (api slot R clean).Preserves (MachineOK slot R clean s m₀) p

/-- A call that is always allowed and leaves the world as it is. -/
theorem MachineKeeps.perform {op : Op} (hguard : ∀ w : World ι, Guard slot R w op)
    (hsame : ∀ (w' : World ι) r w'', Answers R.owner w' op r w'' → w'' = w') :
    MachineKeeps slot R clean s m₀ (Proc.perform op : MachineM op.Reply) := fun _ _ _ h =>
  perform_spec (fun w _ => hguard w) hsame fun _ _ hl _ _ => h.later hl

/-! ## Server groups -/

theorem createServerGroup_keeps {req : ServerGroupRequest}
    (htags : req.tags = clusterOwnershipTags s.cloudscaleCluster) (what : String) (n : Nat) :
    MachineKeeps slot R clean s m₀ (createResource .serverGroup req what n) := by
  intro m w hinv h
  have hguard : ∀ w', Later R clean w w' → Inv slot w' →
      Guard slot R w' (.create .serverGroup req) := fun w' _ _ =>
    ⟨_, h.fits.group, htags ▸ h.fits.groupSelf, htags ▸ h.fits.groupOnly, by simp, by simp⟩
  refine wpc_mono hinv (createResource_spec hguard) ?_
  rintro out m' w' - ⟨rfl, hcr⟩
  cases hcr with
  | ok hg hown hw =>
      refine h.move hg fun hc i hi hcr => ?_
      rw [(hw hc).2] at hi hcr
      exact h.recorded hc i (by simpa using hi) (by simpa using hcr)
  | failed hg hno hw => exact h.move hg fun hc => (hw hc).1 ▸ h.recorded hc

theorem findOrCreateServerGroup_keeps (name : String) :
    MachineKeeps slot R clean s m₀ (findOrCreateServerGroup s.cloudscaleCluster name) := by
  have hset : ∀ id, MachineKeeps slot R clean s m₀
      (Proc.update (setServerGroupID id) >>= fun _ => (pure {} : MachineM Result)) :=
    fun id => .bind (.update fun _ _ h => h.edit rfl rfl rfl) fun _ => .pure _
  intro m w hinv h
  have hlist : MachineKeeps slot R clean s m₀
      (svcList .serverGroup (clusterOwnershipTags s.cloudscaleCluster)) :=
    MachineKeeps.perform (fun _ => h.fits.group) fun _ _ _ h => by cases h <;> rfl
  refine Contract.Preserves.bind hlist (fun reply => ?_) m w hinv h
  cases reply with
  | error e => exact .fail _
  | ok groups =>
      simp only
      split
      · exact hset _
      · refine .bind (createServerGroup_keeps rfl _ _) fun created => ?_
        cases created with
        | error result => exact .pure _
        | ok group => exact hset _

theorem reconcileServerGroup_keeps :
    MachineKeeps slot R clean s m₀ (reconcileServerGroup s.cloudscaleCluster) := by
  refine .deferred (.read_any fun m => ?_) fun out m w h => ?_
  · split
    · exact .pure _
    · refine .ite (fun _ => findOrCreateServerGroup_keeps _) fun _ => ?_
      refine .bind
        (MachineKeeps.perform (fun _ h => absurd rfl h) fun _ _ _ h => by cases h <;> rfl)
        fun reply => ?_
      cases reply with
      | ok _ => exact .pure _
      | error e =>
          refine .ite (fun _ => ?_) fun _ => .fail _
          exact .bind (.update fun _ _ h => h.edit rfl rfl rfl)
            fun _ => findOrCreateServerGroup_keeps _
  · unfold setServerGroupReady
    split <;> exact h.setCondition _ _ _ _

/-! ## The server -/

theorem updateMachineFromServer_ok (h : MachineOK slot R clean s m₀ m w) (server : Server) :
    MachineOK slot R clean s m₀ (updateMachineFromServer server m) w := h.edit rfl rfl rfl

/-- Step 3, entered with no server recorded and none found. -/
theorem createServer_spec (hinv : Inv slot w) (h : MachineOK slot R clean s m₀ m w)
    (hid : m.status.serverID = "")
    (hempty : w.listed .server (serverTags s.cluster m₀.metadata.name) = []) :
    (api slot R clean).wpc (fun _ => MachineOK slot R clean s m₀) (createServer s) m w := by
  rw [createServer, wpc_bind, wpc_wrapErr]
  refine wpc_mono hinv (later_of_frame (f := fun m => m)
    (getBootstrapData_frame s fun _ _ => trivial) (fun _ hop => hop) hinv) ?_
  rintro out m' w' hinv' ⟨rfl, hl⟩
  have h' := h.later hl
  cases out with
  | error e => exact h'
  | ok data =>
      simp only [Except.mapError, after_ok, wpc_bind, wpc_read]
      split
      · exact h'
      · next interfaces ipFamily _ =>
          have hguard : ∀ w'', Later R clean w' w'' → Inv slot w'' → Guard slot R w''
              (.create .server (serverRequest s m' data interfaces ipFamily)) := by
            intro w'' hl' _
            have htags : requestTags (k := .server) (serverRequest s m' data interfaces ipFamily) =
                m₀.spec.tags ++ serverTags s.cluster m₀.metadata.name := by
              rw [← h'.tags_eq, ← h'.metadata]
              rfl
            have hsub := (hl.trans hl').1.listed _ _ h.fits.turf
            rw [hempty] at hsub
            exact ⟨_, h.fits.isSlot, htags ▸ h.fits.self, htags ▸ h.fits.only,
              fun _ => ⟨h.fits.turf, List.sublist_nil.mp hsub⟩, by simp⟩
          rw [wpc_bind]
          refine wpc_mono hinv' (createResource_spec hguard) ?_
          rintro out m'' w'' - ⟨rfl, hcr⟩
          cases hcr with
          | @ok server _ hg hown hw =>
              refine updateMachineFromServer_ok (h'.setServerID (.inr hown) fun hc i hi hcr => ?_) _
              -- the one server is the new one, since none was there before
              obtain ⟨hfresh, rfl⟩ := hw hc
              rcases List.mem_cons.mp hcr with he | hold
              · simpa [identOf, uuidOf, eq_comm] using he
              · have hi' : i ∈ w'.cloud .server := by
                  rcases mem_cloud_create hi with hi | ⟨-, rfl⟩
                  · exact hi
                  · exact absurd (hinv'.created_issued _ _ _ hold).2 hfresh.2
                have := h'.recorded hc i hi' hold
                rw [hid] at this
                exact absurd this.symm (hinv'.issued _ i hi').1
          | failed hg hno hw =>
              have hok := h'.move hg fun hc => (hw hc).1 ▸ h'.recorded hc
              rcases out with e | result | r
              · exact hok
              · exact hok
              · exact absurd rfl (hno r)

/-- Step 2, entered with no server recorded. -/
theorem findServer_spec (h : MachineOK slot R clean s m₀ m w)
    (hid : m.status.serverID = "") :
    (api slot R clean).wpc (fun _ => MachineOK slot R clean s m₀) (findServer s) m w := by
  have htag : machineLookupTag s m = serverTags s.cluster m₀.metadata.name := by
    rw [← h.metadata]
    rfl
  rw [findServer, wpc_read_bind, wpc_bind, htag]
  refine list_spec h.fits.isSlot ?_ ?_
  · intro w' servers hl hinv' hservers
    have h' := h.later hl
    rcases servers with _ | ⟨server, _ | ⟨_, _⟩⟩
    · exact createServer_spec hinv' h' hid hservers.symm
    · have hmem : identOf (k := .server) server ∈
          w'.listed .server (serverTags s.cluster m₀.metadata.name) := by simp [← hservers]
      obtain ⟨hex, hm⟩ := List.mem_filter.mp hmem
      have hown : (R.owner, Kind.server, server.uuid) ∈ w'.created :=
        hinv'.owned _ _ _ h.fits.isSlot _ hex hm
      refine updateMachineFromServer_ok (h'.setServerID (.inr hown) fun hc i hi hcr => ?_) _
      have := h'.recorded hc i hi hcr
      rw [hid] at this
      exact absurd this.symm (hinv'.issued _ i hi).1
    · exact h'
  · intro w' e hl _ _
    exact h.later hl

theorem serverBody_keeps : MachineKeeps slot R clean s m₀ (serverBody s) := by
  refine .read fun m w hinv h => ?_
  split
  · next hid => exact findServer_spec h hid
  · rw [wpc_bind]
    refine get_spec (fun _ => .inl h.server) ?_ ?_
    · intro w' server hl _ _ _
      exact updateMachineFromServer_ok (h.later hl) _
    · intro w' e hl _ _
      simp only [after_ok]
      split
      · exact (h.later hl).setCondition _ _ _ _
      · exact h.later hl

/-- Started from a machine in order, a normal pass ends in one, however it ends. -/
theorem machineReconcileNormal_keeps :
    MachineKeeps slot R clean s m₀ (machineReconcileNormal s) :=
  machineReconcileNormal_preserves
    ⟨fun _ _ _ _ _ _ _ h => h.setCondition _ _ _ _, fun _ _ _ h => h.edit rfl rfl rfl⟩
    reconcileServerGroup_keeps serverBody_keeps

/-! ## Teardown -/

/-- How a delete pass over a machine ends. -/
def MachineDeleteEnd (slot : Slots ι) (R : Role ι) (clean : Prop) (s : MachineScope)
    (m₀ m : CloudscaleMachine) (w : World ι) : Prop :=
  MachineOK slot R clean s m₀ m w ∨
    ((clean → ∀ i ∈ w.cloud .server, (R.owner, .server, i.uuid) ∉ w.created) ∧
      ∃ m₁, MachineOK slot R clean s m₀ m₁ w ∧
        m = { m₁ with metadata := { m₁.metadata with
          finalizers := m₁.metadata.finalizers.filter (· ≠ machineFinalizer) } })

theorem deleteServer_spec (hinv : Inv slot w) (h : MachineOK slot R clean s m₀ m w) :
    (api slot R clean).wpc (fun out m' w' => Inv slot w' ∧ MachineOK slot R clean s m₀ m' w' ∧
        (out = .ok () → m'.status.serverID = "")) deleteServer m w := by
  -- the ID is cleared only when the server is gone
  have hremove : ∀ w', Inv slot w' → MachineOK slot R clean s m₀ m w' →
      (clean → w'.Gone .server m.status.serverID) →
      MachineOK slot R clean s m₀ (setServerID "" m) w' := by
    intro w' hinv' h' hgone
    refine h'.setServerID (.inl rfl) fun hc i hi hcr => ?_
    exact absurd (h'.recorded hc i hi hcr).symm (hgone hc i hi)
  have hshrink : ∀ w₁ k id, MachineOK slot R clean s m₀ m w₁ →
      MachineOK slot R clean s m₀ m (w₁.remove k id) := fun w₁ k id h₁ =>
    have hg : Remembers R.owner w₁ (w₁.remove k id) := fun _ _ hu => hu
    h₁.move hg fun hc i hi hcr => h₁.recorded hc i (mem_of_mem_remove hi) hcr
  rw [deleteServer, wpc_deferred, wpc_read_bind]
  split
  · next hid => exact ⟨hinv, h.setCondition _ _ _ _, fun _ => hid⟩
  · next hid =>
      rw [wpc_bind]
      refine delete_spec (h.server.resolve_left hid) ?_ ?_
      · intro w' hl hinv'
        have hinv'' := inv_remove hinv' .server m.status.serverID
        refine ⟨hinv'', (hremove _ hinv'' (hshrink w' _ _ (h.later hl)) fun _ => ?_).setCondition
          _ _ _ _, fun _ => rfl⟩
        exact gone_remove _ _ _
      · rintro w' w'' e hl hinv'' hw hf
        have h'' : MachineOK slot R clean s m₀ m w'' := by
          rcases hw with rfl | rfl
          · exact h.later hl
          · exact hshrink _ _ _ (h.later hl)
        simp only [after_ok]
        split
        · next hnf =>
            exact ⟨hinv'', (hremove w'' hinv'' h'' fun hc => hf hc hnf).setCondition _ _ _ _,
              fun _ => rfl⟩
        · exact ⟨hinv'', h''.setCondition _ _ _ _, by simp⟩

theorem machineReconcileDelete_spec (hinv : Inv slot w) (h : MachineOK slot R clean s m₀ m w) :
    (api slot R clean).wpc (fun _ => MachineDeleteEnd slot R clean s m₀) machineReconcileDelete
      m w := by
  rw [machineReconcileDelete, wpc_update_bind, wpc_bind, wpc_wrapErr]
  refine wpc_mono hinv (deleteServer_spec hinv (h.setCondition _ _ _ _)) ?_
  rintro out m' w' - ⟨hinv', h', hid⟩
  cases out with
  | error e => exact .inl h'
  | ok _ =>
      have hgroup : MachineOK slot R clean s m₀ (deleteServerGroup m') w' := by
        unfold deleteServerGroup
        split
        · exact h'
        · exact h'.edit rfl rfl rfl
      refine .inr ⟨fun hc i hi hcr => ?_, _, hgroup.setCondition .ready .isFalse .deleting
        "Machine infrastructure has been deleted", rfl⟩
      have hnone := h'.recorded hc i hi hcr
      rw [hid rfl] at hnone
      exact (hinv'.issued _ i hi).1 hnone.symm

end Capcs.Ownership
