import Capcs.System.Fleet

/-!
# Capcs.System.GroupWorld — machines that share server groups

The machines of one cluster, reconciled side by side. Their requests interleave one by one, but for
the section between list and create of `reconcileServerGroup`, which holds `serverGroupMu`. Calls
fail or time out; a create that fails may have taken effect. A pass may start from any spec the API
server ever stored and any status ever persisted, or an empty one, and may be cut off at any point.

The system is `groupFleet`, a `Runtime`. `GroupInv` is the invariant of its world: with the tags of
the cluster there is at most one group for a name and a zone, and every group that a status has
recorded is the one of its machine.
-/

namespace Capcs.System

open Cloudscale Controller Ownership Webhook
open Interaction (Program Runtime Contract)

variable {ι : Type}

/-! ## The world -/

/-- The server groups of the project, who is in the section of `serverGroupMu`, and what the
Kubernetes API has stored: the versions of the cluster and of each machine, oldest first, and the
statuses of each machine. -/
structure GroupWorld (ι : Type) where
  groups : List ServerGroup
  holder : Option ι
  clusters : List CloudscaleCluster
  machines : ι → List CloudscaleMachine
  statuses : ι → List CloudscaleMachineStatus

/-- The UUIDs of the groups with the tags of cluster `name` and the given name and zone. -/
def groupIDs (name : String) (groups : List ServerGroup) (group zone : String) : List String :=
  (groups.filter fun g => matchesTags (ownershipTags name) g.tags ∧ g.name = group ∧
    g.zone = zone).map (·.uuid)

theorem mem_groupIDs {name group zone u : String} {groups : List ServerGroup} :
    u ∈ groupIDs name groups group zone ↔ ∃ g ∈ groups, matchesTags (ownershipTags name) g.tags ∧
      g.name = group ∧ g.zone = zone ∧ g.uuid = u := by
  simp [groupIDs, and_assoc]

theorem groupIDs_subset_cons {name group zone u : String} {g : ServerGroup}
    {groups : List ServerGroup} (h : u ∈ groupIDs name groups group zone) :
    u ∈ groupIDs name (g :: groups) group zone := by
  obtain ⟨g', hg', hrest⟩ := mem_groupIDs.mp h
  exact mem_groupIDs.mpr ⟨g', List.mem_cons_of_mem g hg', hrest⟩

/-- The zone of the cluster. -/
def GroupWorld.zone (w : GroupWorld ι) : String := (w.clusters.head?.map (·.spec.zone)).getD ""

/-- How requests of machine `i` are answered. A list of groups takes the mutex; the section ends
there, or goes on to a create, and then it ends with the answer of this. Of all other requests
the groups do not depend, and their replies are arbitrary. -/
def GroupWorld.Answers (i : ι) (w : GroupWorld ι) : (op : Op) → op.Reply → GroupWorld ι → Prop
  | .list .serverGroup tags, r, w' => w.holder = none ∧
      (w' = w ∨ w' = { w with holder := some i }) ∧
      ∀ gs, r = .ok gs → ∀ g, g ∈ gs ↔ g ∈ w.groups ∧ matchesTags tags g.tags
  | .create .serverGroup req, r, w' => w.holder = some i ∧
      ((∃ g : ServerGroup, g.uuid ≠ "" ∧ g.name = req.name ∧ g.zone = req.zone ∧ g.tags = req.tags ∧
          (∀ g', r = .ok g' → g' = g) ∧ w' = { w with groups := g :: w.groups, holder := none }) ∨
        (∃ e, r = .error e) ∧ w' = { w with holder := none })
  | _, _, w' => w' = w

/-- Machine `i` leaves the section, if it is in it. -/
def GroupWorld.leave [DecidableEq ι] (w : GroupWorld ι) (i : ι) : GroupWorld ι :=
  { w with holder := if w.holder = some i then none else w.holder }

/-- What others do. The groups with the tags of the cluster stay, with their names and zones; the
user stores versions of the cluster and of the machines through the webhook. -/
inductive GroupWorld.Env [DecidableEq ι] (name : String) (ri : RegionInfo) (w : GroupWorld ι) :
    GroupWorld ι → Prop where
  | regroup {groups : List ServerGroup} : (∀ g ∈ groups, g.uuid ≠ "") →
      (∀ group zone, groupIDs name groups group zone = groupIDs name w.groups group zone) →
      GroupWorld.Env name ri w { w with groups }
  | storeCluster {c : CloudscaleCluster} : c.metadata.name = name →
      AdmittedRun ri (w.clusters ++ [c]) →
      GroupWorld.Env name ri w { w with clusters := w.clusters ++ [c] }
  | storeMachine {i : ι} {m : CloudscaleMachine} : AdmittedMachines (w.machines i ++ [m]) →
      GroupWorld.Env name ri w
        { w with machines := Function.update w.machines i (w.machines i ++ [m]) }

/-- How passes start. -/
structure GroupWorld.Starts (name : String) (w : GroupWorld ι) (i : ι) (s : MachineScope)
    (m : CloudscaleMachine) : Prop where
  cluster : ∃ c ∈ w.clusters, s.cloudscaleCluster.spec.zone = c.spec.zone
  name : s.cloudscaleCluster.metadata.name = name
  spec : ∃ v ∈ w.machines i, m.spec = v.spec
  status : MachineStarted (w.statuses i) m.status

/-- What a pass of machine `i` persists. -/
def GroupWorld.persist [DecidableEq ι] (w : GroupWorld ι) (i : ι) (m : CloudscaleMachine) :
    GroupWorld ι :=
  { w with statuses := Function.update w.statuses i (m.status :: w.statuses i) }

/-- The whole system. -/
def groupFleet [DecidableEq ι] (name : String) (ri : RegionInfo) :
    Runtime (GroupWorld ι) ι Op Op.Reply (Except GoError Result × CloudscaleMachine) where
  start w i p w' := w' = w ∧ ∃ s m, w.Starts name i s m ∧ p = machineWork s m
  answer i w op r w' := w.Answers i op r w'
  finish w i out w' := w' = (w.persist i out.2).leave i
  crash w i w' := w' = w.leave i
  env w w' := w.Env name ri w'

/-! ## The invariant -/

/-- A recorded group is none, or the one of a machine. -/
def RecordsGroup (name : String) (w : GroupWorld ι) (i : ι) (id : String) : Prop :=
  id = "" ∨ ∃ m ∈ w.machines i, ∃ group, m.spec.serverGroup = some group ∧
    id ∈ groupIDs name w.groups group.name w.zone

structure GroupInv (name : String) (ri : RegionInfo) (w : GroupWorld ι) : Prop where
  unique : ∀ group zone, (groupIDs name w.groups group zone).length ≤ 1
  uuids : ∀ g ∈ w.groups, g.uuid ≠ ""
  clusters : AdmittedRun ri w.clusters
  machines : ∀ i, w.machines i ≠ [] → AdmittedMachines (w.machines i)
  statuses : ∀ i, ∀ st ∈ w.statuses i, RecordsGroup name w i st.serverGroupID

/-- No group of the cluster goes away, and no version is forgotten. -/
structure GroupsGrow (name : String) (w w' : GroupWorld ι) : Prop where
  groups : ∀ group zone, groupIDs name w.groups group zone ⊆ groupIDs name w'.groups group zone
  zone : w'.zone = w.zone
  machines : ∀ i, w.machines i ⊆ w'.machines i

/-- What machine `i` relies on. While it is in the section, no group is added. -/
structure GroupRely (name : String) (i : ι) (w w' : GroupWorld ι) : Prop where
  grow : GroupsGrow name w w'
  inside : w'.holder = some i → w.holder = some i ∧ ∀ group zone,
    groupIDs name w'.groups group zone ⊆ groupIDs name w.groups group zone

section

variable {name : String} {ri : RegionInfo} {w w' w'' : GroupWorld ι} {i j : ι}

theorem GroupsGrow.refl (w : GroupWorld ι) : GroupsGrow name w w :=
  ⟨fun _ _ => List.Subset.refl _, rfl, fun _ => List.Subset.refl _⟩

theorem GroupsGrow.trans (h : GroupsGrow name w w') (h' : GroupsGrow name w' w'') :
    GroupsGrow name w w'' :=
  ⟨fun group zone => List.Subset.trans (h.groups group zone) (h'.groups group zone),
    h'.zone.trans h.zone, fun i => List.Subset.trans (h.machines i) (h'.machines i)⟩

theorem GroupRely.refl (w : GroupWorld ι) : GroupRely name i w w :=
  ⟨.refl w, fun h => ⟨h, fun _ _ => List.Subset.refl _⟩⟩

theorem GroupRely.trans (h : GroupRely name i w w') (h' : GroupRely name i w' w'') :
    GroupRely name i w w'' := by
  refine ⟨h.grow.trans h'.grow, fun hholder => ?_⟩
  obtain ⟨hmid, hsub'⟩ := h'.inside hholder
  obtain ⟨hfirst, hsub⟩ := h.inside hmid
  exact ⟨hfirst, fun group zone => List.Subset.trans (hsub' group zone) (hsub group zone)⟩

/-- A move after which machine `i` is not in the section is one it can rely on. -/
theorem GroupsGrow.rely (h : GroupsGrow name w w') (hout : w'.holder ≠ some i) :
    GroupRely name i w w' :=
  ⟨h, fun hin => absurd hin hout⟩

theorem RecordsGroup.grow {id : String} (h : RecordsGroup name w i id) (hg : GroupsGrow name w w') :
    RecordsGroup name w' i id := by
  rcases h with h | ⟨m, hm, group, hgroup, hid⟩
  · exact .inl h
  · refine .inr ⟨m, hg.machines i hm, group, hgroup, ?_⟩
    rw [hg.zone]
    exact hg.groups _ _ hid

theorem GroupInv.zone_eq (h : GroupInv name ri w) {c : CloudscaleCluster} (hc : c ∈ w.clusters) :
    c.spec.zone = w.zone := by
  have hrun := h.clusters
  unfold GroupWorld.zone
  revert hrun hc
  cases w.clusters with
  | nil => exact fun hc _ => absurd hc List.not_mem_nil
  | cons first rest => exact fun hc hrun => hrun.zone_eq hc

/-- All versions of a machine have the same group. -/
theorem GroupInv.serverGroup_eq (h : GroupInv name ri w) {m m' : CloudscaleMachine}
    (hm : m ∈ w.machines i) (hm' : m' ∈ w.machines i) :
    m.spec.serverGroup = m'.spec.serverGroup := by
  obtain ⟨group, hgroup⟩ := (h.machines i (List.ne_nil_of_mem hm)).serverGroup
  rw [hgroup m hm, hgroup m' hm']

/-- A recorded ID is that of the group of the machine. -/
theorem GroupInv.recorded (h : GroupInv name ri w) {id : String} (hrec : RecordsGroup name w i id)
    (hne : id ≠ "") {m : CloudscaleMachine} (hm : m ∈ w.machines i) {group : ServerGroupSpec}
    (hgroup : m.spec.serverGroup = some group) : id ∈ groupIDs name w.groups group.name w.zone := by
  obtain ⟨m', hm', group', hgroup', hid⟩ := hrec.resolve_left hne
  have hsame := h.serverGroup_eq hm hm'
  rw [hgroup, hgroup', Option.some_inj] at hsame
  exact hsame ▸ hid

/-- There is no other group than that of a UUID. -/
theorem GroupInv.groupIDs_eq (h : GroupInv name ri w) {u group zone : String}
    (hu : u ∈ groupIDs name w.groups group zone) : groupIDs name w.groups group zone = [u] := by
  obtain ⟨v, hv⟩ := List.length_eq_one_iff.mp
    (Nat.le_antisymm (h.unique group zone) (List.length_pos_of_mem hu))
  rw [hv, List.mem_singleton] at hu
  rw [hv, hu]

theorem GroupInv.ne_empty (h : GroupInv name ri w) {u group zone : String}
    (hu : u ∈ groupIDs name w.groups group zone) : u ≠ "" := by
  obtain ⟨g, hg, -, -, -, rfl⟩ := mem_groupIDs.mp hu
  exact h.uuids g hg

/-- The invariant does not depend on who is in the section. -/
theorem GroupInv.hold (h : GroupInv name ri w) (holder : Option ι) :
    GroupInv name ri { w with holder } :=
  ⟨h.unique, h.uuids, h.clusters, h.machines, h.statuses⟩

theorem GroupsGrow.hold (holder : Option ι) : GroupsGrow name w { w with holder } :=
  ⟨fun _ _ => List.Subset.refl _, rfl, fun _ => List.Subset.refl _⟩

/-! ## Every move keeps it -/

/-- What a machine must establish before a request: it asks for a group only if there is none, and
a server is created in the group of its machine. -/
def GroupGuard (name : String) (i : ι) (w : GroupWorld ι) : Op → Prop
  | .create .serverGroup req => w.holder = some i → groupIDs name w.groups req.name req.zone = []
  | .create .server req => ∀ m ∈ w.machines i, ∀ group, m.spec.serverGroup = some group →
      ∃ u ∈ groupIDs name w.groups group.name w.zone, req.serverGroups = [u]
  | _ => True

/-- A group is added where there was none. -/
theorem GroupInv.insert (h : GroupInv name ri w) {g : ServerGroup} (hne : g.uuid ≠ "")
    (hnone : groupIDs name w.groups g.name g.zone = []) :
    GroupInv name ri { w with groups := g :: w.groups } := by
  have hgrow : GroupsGrow name w { w with groups := g :: w.groups } :=
    ⟨fun _ _ _ hu => groupIDs_subset_cons hu, rfl, fun _ => List.Subset.refl _⟩
  refine ⟨?_, ?_, h.clusters, h.machines, fun i st hst => (h.statuses i st hst).grow hgrow⟩
  · intro group zone
    -- only the count under the key of the new group changes
    by_cases hkey : g.name = group ∧ g.zone = zone
    · obtain ⟨rfl, rfl⟩ := hkey
      unfold groupIDs at hnone ⊢
      rw [List.filter_cons]
      split
      · rw [List.map_cons, hnone]
        exact Nat.le_refl 1
      · rw [hnone]
        exact Nat.zero_le 1
    · have hskip : groupIDs name (g :: w.groups) group zone = groupIDs name w.groups
          group zone := by
        simp only [groupIDs]
        rw [List.filter_cons_of_neg (by simp only [decide_eq_true_eq]; exact fun hm => hkey hm.2)]
      exact hskip ▸ h.unique group zone
  · intro g' hg'
    rcases List.mem_cons.mp hg' with rfl | hg'
    · exact hne
    · exact h.uuids g' hg'

theorem GroupInv.answer (h : GroupInv name ri w) {op : Op} (hguard : GroupGuard name i w op)
    {r : op.Reply} (hans : w.Answers i op r w') :
    GroupInv name ri w' ∧ GroupsGrow name w w' ∧ ∀ j, j ≠ i → GroupRely name j w w' := by
  have hquiet (heq : w' = w) : GroupInv name ri w' ∧ GroupsGrow name w w' ∧
      ∀ j, j ≠ i → GroupRely name j w w' := by
    rw [heq]
    exact ⟨h, .refl _, fun _ _ => .refl _⟩
  unfold GroupWorld.Answers at hans
  split at hans
  · -- the mutex was free, and is now, or is held by `i`
    obtain ⟨hfree, hheld, -⟩ := hans
    rcases hheld with rfl | rfl
    · exact hquiet rfl
    · exact ⟨h.hold _, .hold _, fun j hj => (GroupsGrow.hold _).rely fun hin =>
        hj (Option.some.inj hin).symm⟩
  · next req _ _ =>
      obtain ⟨hin, ⟨g, hne, hname, hzone, -, -, rfl⟩ | ⟨-, rfl⟩⟩ := hans
      · have hnone : groupIDs name w.groups g.name g.zone = [] := by
          rw [hname, hzone]
          exact hguard hin
        have hgrow : GroupsGrow name w { w with groups := g :: w.groups, holder := none } :=
          ⟨fun _ _ _ hu => groupIDs_subset_cons hu, rfl, fun _ => List.Subset.refl _⟩
        exact ⟨(h.insert hne hnone).hold none, hgrow, fun j _ => hgrow.rely (by simp)⟩
      · exact ⟨h.hold none, .hold none, fun j _ => (GroupsGrow.hold none).rely (by simp)⟩
  · exact hquiet hans

variable [DecidableEq ι]

theorem GroupInv.leave (h : GroupInv name ri w) (i : ι) :
    GroupInv name ri (w.leave i) ∧ ∀ j, j ≠ i → GroupRely name j w (w.leave i) := by
  refine ⟨h.hold _, fun j hj => ⟨.hold _, fun hin => ?_⟩⟩
  simp only [GroupWorld.leave] at hin
  split at hin
  · cases hin
  · exact ⟨hin, fun _ _ => List.Subset.refl _⟩

theorem GroupInv.persist (h : GroupInv name ri w) {m : CloudscaleMachine}
    (hrec : RecordsGroup name w i m.status.serverGroupID) : GroupInv name ri (w.persist i m) := by
  refine ⟨h.unique, h.uuids, h.clusters, h.machines, fun j st hst => ?_⟩
  simp only [GroupWorld.persist, Function.update_apply] at hst
  split at hst
  · next hj =>
      subst hj
      rcases List.mem_cons.mp hst with rfl | hst
      · exact hrec
      · exact h.statuses j st hst
  · exact h.statuses j st hst

theorem GroupRely.persist (i : ι) (m : CloudscaleMachine) :
    GroupRely name j w (w.persist i m) :=
  ⟨⟨fun _ _ => List.Subset.refl _, rfl, fun _ => List.Subset.refl _⟩,
    fun hin => ⟨hin, fun _ _ => List.Subset.refl _⟩⟩

theorem GroupInv.env (h : GroupInv name ri w) (henv : w.Env name ri w') :
    GroupInv name ri w' ∧ ∀ j, GroupRely name j w w' := by
  cases henv with
  | @regroup groups hne hsame =>
      -- foreign changes leave the groups of the cluster alone
      have hgrow : GroupsGrow name w { w with groups } :=
        ⟨fun group zone => hsame group zone ▸ List.Subset.refl _, rfl, fun _ => List.Subset.refl _⟩
      refine ⟨⟨fun group zone => hsame group zone ▸ h.unique group zone, hne,
        h.clusters, h.machines,
        fun i st hst => (h.statuses i st hst).grow hgrow⟩, fun j => ⟨hgrow, fun hin => ⟨hin, ?_⟩⟩⟩
      exact fun group zone => hsame group zone ▸ List.Subset.refl _
  | @storeCluster c _ hrun =>
      -- the zone is that of the first version, which stays
      have hzone : (w.clusters ++ [c]).head? = w.clusters.head? :=
        List.head?_append_of_ne_nil _ h.clusters.ne_nil
      have hgrow : GroupsGrow name w { w with clusters := w.clusters ++ [c] } :=
        ⟨fun _ _ => List.Subset.refl _, by simp only [GroupWorld.zone, hzone],
          fun _ => List.Subset.refl _⟩
      exact ⟨⟨h.unique, h.uuids, hrun, h.machines, fun i st hst =>
        (h.statuses i st hst).grow hgrow⟩,
        fun j => ⟨hgrow, fun hin => ⟨hin, fun _ _ => List.Subset.refl _⟩⟩⟩
  | @storeMachine i m hrun =>
      have hmachines (j : ι) : w.machines j ⊆ Function.update w.machines i
          (w.machines i ++ [m]) j := by
        rw [Function.update_apply]
        split
        · next hj => exact hj ▸ List.subset_append_left _ _
        · exact List.Subset.refl _
      have hgrow : GroupsGrow name w
          { w with machines := Function.update w.machines i (w.machines i ++ [m]) } :=
        ⟨fun _ _ => List.Subset.refl _, rfl, hmachines⟩
      refine ⟨⟨h.unique, h.uuids, h.clusters, fun j hj => ?_,
        fun i st hst => (h.statuses i st hst).grow hgrow⟩,
        fun j => ⟨hgrow, fun hin => ⟨hin, fun _ _ => List.Subset.refl _⟩⟩⟩
      simp only [Function.update_apply] at hj ⊢
      split
      · exact hrun
      · next hne => exact h.machines j (by simpa only [if_neg hne] using hj)

end

end Capcs.System
