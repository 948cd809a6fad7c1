import Capcs.System.GroupWorld
import Capcs.System.OneCluster

/-!
# Capcs.System.GroupAgreement — machines agree on their server group

A pass keeps what is recorded of the group of its machine (`InGroup`),
  and goes on to the server only
with a group (`Grouped`). Together with the moves of the world this gives `groupObligations`, and
from it `server_groups_agree`: whatever the order of the requests, there is one group for a name,
the statuses of all its machines have its UUID, and servers are created in it.
-/

namespace Capcs.System

open Cloudscale Controller Ownership Webhook
open Interaction (Proc Program Runtime Contract)
open Interaction.Contract

variable {ι : Type} {name : String} {ri : RegionInfo} {w w' : GroupWorld ι} {i : ι}
  {m : CloudscaleMachine}

/-- The contract of machine `i`. -/
abbrev groupCalls (name : String) (ri : RegionInfo) (i : ι) : Contract (GroupWorld ι) Op Op.Reply :=
  ⟨GroupInv name ri, GroupRely name i, GroupGuard name i, GroupWorld.Answers i⟩

/-- The object of a running pass: its group is the stored one, and so is the recorded one. -/
structure InGroup (name : String) (i : ι) (m : CloudscaleMachine) (w : GroupWorld ι) : Prop where
  spec : ∃ v ∈ w.machines i, m.spec.serverGroup = v.spec.serverGroup
  recorded : RecordsGroup name w i m.status.serverGroupID

theorem InGroup.grow (h : InGroup name i m w) (hg : GroupsGrow name w w') :
    InGroup name i m w' := by
  obtain ⟨v, hv, heq⟩ := h.spec
  exact ⟨⟨v, hg.machines i hv, heq⟩, h.recorded.grow hg⟩

theorem InGroup.congr {m' : CloudscaleMachine} (h : InGroup name i m w)
    (hspec : m'.spec.serverGroup = m.spec.serverGroup)
    (hid : m'.status.serverGroupID = m.status.serverGroupID) : InGroup name i m' w :=
  ⟨hspec.symm ▸ h.spec, hid.symm ▸ h.recorded⟩

theorem InGroup.clear (h : InGroup name i m w) : InGroup name i (setServerGroupID "" m) w :=
  ⟨h.spec, .inl rfl⟩

/-- And a group is recorded, if there is to be one. -/
structure Grouped (name : String) (i : ι) (m : CloudscaleMachine) (w : GroupWorld ι) : Prop where
  inGroup : InGroup name i m w
  known : m.spec.serverGroup.isSome → m.status.serverGroupID ≠ ""

/-! ## The server group -/

/-- After a request nothing is lost that the pass knows. -/
theorem groupCalls_perform {op : Op}
    {Q : Except GoError op.Reply → CloudscaleMachine → GroupWorld ι → Prop}
    (hguard : ∀ w₁, GroupInv name ri w₁ → GroupRely name i w w₁ → GroupGuard name i w₁ op)
    (hQ : ∀ w₁ r w₂, GroupInv name ri w₁ → GroupRely name i w w₁ → GroupsGrow name w w₂ →
      GroupInv name ri w₂ → w₁.Answers i op r w₂ → Q (.ok r) m w₂) :
    (groupCalls name ri i).wpc Q (Proc.perform op) m w := by
  refine wpc_perform.mpr fun w₁ hrely hinv₁ => ?_
  refine ⟨hguard w₁ hinv₁ hrely, fun r w₂ hans hinv₂ => ?_⟩
  have hgrow := (hinv₁.answer (hguard w₁ hinv₁ hrely) hans).2.1
  exact hQ w₁ r w₂ hinv₁ hrely (hrely.grow.trans hgrow) hinv₂ hans

/-- Recording the group of the machine. -/
theorem Grouped.record (h : InGroup name i m w) (hinv : GroupInv name ri w)
    {group : ServerGroupSpec} (hgroup : m.spec.serverGroup = some group) {u : String}
    (hu : u ∈ groupIDs name w.groups group.name w.zone) :
    Grouped name i (setServerGroupID u m) w := by
  obtain ⟨v, hv, heq⟩ := h.spec
  refine ⟨⟨⟨v, hv, heq⟩, .inr ⟨v, hv, group, ?_, hu⟩⟩, fun _ => hinv.ne_empty hu⟩
  exact heq ▸ hgroup

/-- How the step ends: with a group, or not in the way that lets the pass go on. -/
def GroupEnd (name : String) (i : ι) (out : Except GoError Result) (m : CloudscaleMachine)
    (w : GroupWorld ι) : Prop :=
  InGroup name i m w ∧ (out = .ok {} → Grouped name i m w)

theorem Grouped.groupEnd {out : Except GoError Result} (h : Grouped name i m w) :
    GroupEnd name i out m w := ⟨h.inGroup, fun _ => h⟩

theorem findOrCreateServerGroup_end {cluster : CloudscaleCluster} {group : ServerGroupSpec}
    (h : InGroup name i m w) (hgroup : m.spec.serverGroup = some group)
    (hname : cluster.metadata.name = name) (hzone : cluster.spec.zone = w.zone) :
    (groupCalls name ri i).wpc (GroupEnd name i)
      (findOrCreateServerGroup cluster group.name) m w := by
  have htags : clusterOwnershipTags cluster = ownershipTags name := by
    rw [clusterOwnershipTags_eq, hname]
  unfold findOrCreateServerGroup
  rw [wpc_bind]
  refine groupCalls_perform (fun _ _ _ => trivial) ?_
  intro w₁ r w₂ hinv₁ hrely hgrow hinv₂ hans
  obtain ⟨-, hheld, hlist⟩ := hans
  rw [htags] at hlist
  have hsame : w₂.groups = w₁.groups ∧ w₂.zone = w₁.zone := by
    rcases hheld with rfl | rfl <;> exact ⟨rfl, rfl⟩
  have h₂ := h.grow hgrow
  have hzone₂ : cluster.spec.zone = w₂.zone := hzone.trans hgrow.zone.symm
  cases r with
  | error err => exact ⟨h₂, fun hok => by cases hok⟩
  | ok groups =>
      simp only [after_ok]
      have hlisted := hlist groups rfl
      split
      · next g hfind =>
          -- a group of that name and zone is there
          have hkey := List.find?_some hfind
          simp only [decide_eq_true_eq] at hkey
          obtain ⟨hmem, hmatch⟩ := (hlisted g).mp (List.mem_of_find?_eq_some hfind)
          refine (Grouped.record h₂ hinv₂ hgroup (mem_groupIDs.mpr
            ⟨g, ?_, hmatch, hkey.1, hkey.2.trans hzone₂, rfl⟩)).groupEnd
          exact hsame.1 ▸ hmem
      · next hfind =>
          -- there is none, and while the mutex is held nobody adds one
          have hnone : groupIDs name w₂.groups group.name w₂.zone = [] := by
            rw [List.eq_nil_iff_forall_not_mem]
            intro u hu
            obtain ⟨g, hg, hmatch, hn, hz, -⟩ := mem_groupIDs.mp hu
            have hmem : g ∈ groups := (hlisted g).mpr ⟨hsame.1 ▸ hg, hmatch⟩
            have hno := List.find?_eq_none.mp hfind g hmem
            simp only [decide_eq_true_eq, not_and] at hno
            exact hno hn (hz.trans hzone₂.symm)
          rw [wpc_bind]
          unfold createResource
          rw [wpc_bind]
          refine groupCalls_perform ?_ ?_
          · intro w₃ _ hrely₃ hin
            obtain ⟨-, hsub⟩ := hrely₃.inside hin
            have hsub' := hsub group.name cluster.spec.zone
            rw [hzone₂, hnone] at hsub'
            rw [hzone₂]
            exact List.subset_nil.mp hsub'
          · intro w₃ r w₄ hinv₃ hrely₃ hgrow₄ hinv₄ hans
            have h₄ := h₂.grow hgrow₄
            cases r with
            | error err =>
                rw [after_ok, wpc_ite]
                split
                · exact ⟨h₄, fun hok => by cases hok⟩
                · exact ⟨h₄, fun hok => by cases hok⟩
            | ok g =>
                obtain ⟨-, ⟨g', hne, hn, hz, htags', hreply, rfl⟩ | ⟨⟨e, herr⟩, -⟩⟩ := hans
                · obtain rfl := hreply g rfl
                  refine (Grouped.record h₄ hinv₄ hgroup (mem_groupIDs.mpr
                    ⟨g, List.mem_cons_self, ?_, hn, ?_, rfl⟩)).groupEnd
                  · rw [htags', htags]
                    simp [matchesTags, ownershipTags]
                  · exact hz.trans (hzone₂.trans hgrow₄.zone.symm)
                · cases herr

theorem reconcileServerGroup_end {cluster : CloudscaleCluster}
    (h : InGroup name i m w) (hname : cluster.metadata.name = name)
    (hzone : cluster.spec.zone = w.zone) :
    (groupCalls name ri i).wpc (GroupEnd name i) (reconcileServerGroup cluster) m w := by
  -- the deferred condition touches neither the spec nor the ID
  have hready (out : Except GoError Result) (m : CloudscaleMachine) (w : GroupWorld ι)
      (h : GroupEnd name i out m w) : GroupEnd name i out (setServerGroupReady out m) w := by
    have hcongr : (setServerGroupReady out m).spec = m.spec ∧
        (setServerGroupReady out m).status.serverGroupID = m.status.serverGroupID := by
      cases out <;> exact ⟨rfl, rfl⟩
    have hin (h : InGroup name i m w) : InGroup name i (setServerGroupReady out m) w :=
      h.congr (by rw [hcongr.1]) hcongr.2
    refine ⟨hin h.1, fun hok => ⟨hin h.1, ?_⟩⟩
    rw [hcongr.1, hcongr.2]
    exact (h.2 hok).known
  unfold reconcileServerGroup
  rw [wpc_deferred]
  refine wpc_imp (Q := GroupEnd name i) ?_ hready
  rw [wpc_read_bind]
  split
  · next hnone => exact ⟨h, fun _ => ⟨h, fun hsome => by simp [hnone] at hsome⟩⟩
  · next group hgroup =>
      rw [wpc_ite]
      split
      · exact findOrCreateServerGroup_end h hgroup hname hzone
      · next hid =>
          rw [wpc_bind]
          refine groupCalls_perform (fun _ _ _ => trivial) ?_
          intro w₁ r w₂ _ _ hgrow _ _
          have h₂ := h.grow hgrow
          cases r with
          | ok g => exact ⟨h₂, fun _ => ⟨h₂, fun _ => hid⟩⟩
          | error err =>
              rw [after_ok, wpc_ite]
              split
              -- deleted externally: the ID is cleared and the group looked up again
              · rw [wpc_bind]
                exact findOrCreateServerGroup_end h₂.clear hgroup hname
                  (hzone.trans hgrow.zone.symm)
              · exact ⟨h₂, fun hok => by cases hok⟩

/-! ## The server -/

theorem Grouped.congr {m' : CloudscaleMachine} (h : Grouped name i m w)
    (hspec : m'.spec.serverGroup = m.spec.serverGroup)
    (hid : m'.status.serverGroupID = m.status.serverGroupID) : Grouped name i m' w :=
  ⟨h.inGroup.congr hspec hid, fun hsome => hid ▸ h.known (hspec ▸ hsome)⟩

theorem Grouped.grow (h : Grouped name i m w) (hg : GroupsGrow name w w') : Grouped name i m w' :=
  ⟨h.inGroup.grow hg, h.known⟩

/-- A request for which nothing has to be established keeps what others keep. -/
theorem groupCalls_preserves {J : CloudscaleMachine → GroupWorld ι → Prop}
    (hJ : ∀ m w w', GroupsGrow name w w' → J m w → J m w') {op : Op}
    (hop : ∀ w : GroupWorld ι, GroupGuard name i w op) :
    (groupCalls name ri i).Preserves J (Proc.perform op : MachineM op.Reply) := by
  intro m w _ h
  refine groupCalls_perform (fun w₁ _ _ => hop w₁) ?_
  intro w₁ r w₂ _ _ hgrow _ _
  exact hJ m w w₂ hgrow h

theorem grouped_perform {op : Op} (hop : ∀ w : GroupWorld ι, GroupGuard name i w op) :
    (groupCalls name ri i).Preserves (Grouped name i) (Proc.perform op : MachineM op.Reply) :=
  groupCalls_preserves (fun _ _ _ hg h => h.grow hg) hop

theorem adoptServer_grouped (server : Server) :
    (groupCalls name ri i).Preserves (Grouped name i) (adoptServer server) :=
  .bind (.update fun _ _ h => h.congr rfl rfl) fun _ =>
    .bind (.update fun _ _ h => h.congr rfl rfl) fun _ => .pure _

theorem getBootstrapData_grouped (s : MachineScope) :
    (groupCalls name ri i).Preserves (Grouped name i) (getBootstrapData s) := by
  unfold getBootstrapData
  split
  · exact .fail _
  · refine .bind (grouped_perform fun _ => trivial) fun r => ?_
    split
    · exact .fail _
    · split
      · exact .fail _
      · exact .pure _

/-- The server is created in the group of the machine. -/
theorem serverRequest_guard {s : MachineScope} {data : String} {interfaces : List String}
    {ipFamily : Option IPFamily} (hinv : GroupInv name ri w) (h : Grouped name i m w) :
    GroupGuard name i w (.create .server (serverRequest s m data interfaces ipFamily)) := by
  intro v hv group hgroup
  obtain ⟨v', hv', heq⟩ := h.inGroup.spec
  have hm : m.spec.serverGroup = some group := by rw [heq, ← hinv.serverGroup_eq hv hv', hgroup]
  have hne := h.known (by simp [hm])
  refine ⟨m.status.serverGroupID, hinv.recorded h.inGroup.recorded hne hv hgroup, ?_⟩
  exact if_pos hne

theorem createServer_grouped (s : MachineScope) :
    (groupCalls name ri i).Preserves (Grouped name i) (createServer s) := by
  refine .bind (.wrapErr (getBootstrapData_grouped s)) fun data => .read fun m w hinv h => ?_
  split
  · exact h
  · unfold createResource
    rw [wpc_bind, wpc_bind]
    refine groupCalls_perform ?_ ?_
    · exact fun w₁ hinv₁ hrely => serverRequest_guard hinv₁ (h.grow hrely.grow)
    · intro w₁ r w₂ _ _ hgrow hinv₂ _
      have h₂ := h.grow hgrow
      cases r with
      | ok server => exact adoptServer_grouped server m w₂ hinv₂ h₂
      | error err =>
          rw [after_ok, wpc_ite]
          split
          · exact h₂
          · exact h₂

theorem machineServerStep_grouped (s : MachineScope) :
    (groupCalls name ri i).Preserves (Grouped name i) (machineServerStep s) := by
  have hblind : MachineBlind (Grouped (ι := ι) name i) :=
    ⟨fun _ _ _ _ _ _ _ h => h.congr rfl rfl, fun _ _ _ h => h.congr rfl rfl⟩
  have hbody : (groupCalls name ri i).Preserves (Grouped name i) (serverBody s) :=
    serverBody_preserves hblind (fun _ => grouped_perform fun _ => trivial)
      (fun _ _ _ h => h.congr rfl rfl)
        (findServer_preserves (fun _ => grouped_perform fun _ => trivial)
        adoptServer_grouped (createServer_grouped s))
  exact fun m w hinv h => machineServerStep_wpc hblind (hbody m w hinv h)

/-! ## Passes -/

theorem machineReconcileNormal_inGroup {s : MachineScope} (hinv : GroupInv name ri w)
    (h : InGroup name i m w) (hname : s.cloudscaleCluster.metadata.name = name)
    (hzone : s.cloudscaleCluster.spec.zone = w.zone) :
    (groupCalls name ri i).wpc (fun _ => InGroup name i) (machineReconcileNormal s) m w := by
  have hblind : MachineBlind (InGroup (ι := ι) name i) :=
    ⟨fun _ _ _ _ _ _ _ h => h.congr rfl rfl, fun _ _ _ h => h.congr rfl rfl⟩
  have hserver {m : CloudscaleMachine} {w : GroupWorld ι} (hinv : GroupInv name ri w)
      (h : Grouped name i m w) :
      (groupCalls name ri i).wpc (fun _ => InGroup name i) (machineServerStep s) m w :=
    wpc_imp (machineServerStep_grouped s m w hinv h) fun _ _ _ h => h.inGroup
  unfold machineReconcileNormal
  rw [wpc_deferred]
  refine wpc_imp (Q := fun _ => InGroup name i) ?_ fun _ => hblind.ready
  rw [wpc_ite]
  split
  · exact h.congr rfl rfl
  · rw [wpc_read_bind, wpc_ite]
    split
    · next hnone =>
        -- a machine without a group
        exact hserver hinv ⟨h, fun hsome => by simp_all⟩
    · refine wpc_seq_inv hinv (reconcileServerGroup_end h hname hzone) ?_
      intro out m' w' hinv' hend
      cases out with
      | error err => exact hend.1
      | ok result =>
          rw [after_ok, wpc_ite]
          split
          · exact hend.1
          · next hzero =>
              have hres : result = {} := by
                have hz : result.requeueAfter = 0 := by simpa [Result.isZero] using hzero
                cases result
                exact congrArg Result.mk hz
              exact hserver hinv' (hend.2 (by rw [hres]))

theorem machineReconcileDelete_inGroup :
    (groupCalls name ri i).Preserves (InGroup name i) machineReconcileDelete := by
  have hserver : (groupCalls name ri i).Preserves (InGroup name i) deleteServer := by
    refine .deferred (.read_any fun m => .ite (fun _ => .pure _) fun _ => ?_) ?_
    · refine .bind (groupCalls_preserves (fun _ _ _ hg h => h.grow hg) fun _ => trivial) fun r => ?_
      split
      · exact .update fun _ _ h => h.congr rfl rfl
      · exact .ite (fun _ => .update fun _ _ h => h.congr rfl rfl) fun _ => .fail _
    · intro out m w h
      cases out <;> exact h.congr rfl rfl
  refine .bind (.update fun _ _ h => h.congr rfl rfl) fun _ => .bind (.wrapErr hserver) fun _ =>
    .bind (.update ?_) fun _ => .bind (.update fun _ _ h => h.congr rfl rfl) fun _ =>
      .bind (.update fun _ _ h => h.congr rfl rfl) fun _ => .pure _
  intro m w h
  unfold deleteServerGroup
  split
  · exact h
  · exact h.clear

theorem machineWork_inGroup {s : MachineScope} (hinv : GroupInv name ri w)
    (hstart : w.Starts name i s m) : (groupCalls name ri i).wp
      (fun out w => InGroup name i out.2 w) (machineWork s m) w := by
  obtain ⟨c, hc, hzone⟩ := hstart.cluster
  obtain ⟨v, hv, hspec⟩ := hstart.spec
  have h : InGroup name i m w := by
    refine ⟨⟨v, hv, by rw [hspec]⟩, ?_⟩
    obtain ⟨st, hst, heq⟩ := hstart.status
    rw [heq]
    rcases hst with rfl | hst
    · exact .inl rfl
    · exact hinv.statuses i st hst
  unfold machineWork
  split
  · exact machineReconcileDelete_inGroup m w hinv h
  · exact machineReconcileNormal_inGroup hinv (h.congr rfl rfl) hstart.name
      (hzone.trans (hinv.zone_eq hc))

/-! ## The whole system -/

section

variable [DecidableEq ι]

/-- Every machine keeps the invariant. -/
def groupObligations (name : String) (ri : RegionInfo) :
    Runtime.Obligations (groupFleet name ri : Runtime (GroupWorld ι) ι Op Op.Reply _) where
  inv := GroupInv name ri
  rely := GroupRely name
  guard := GroupGuard name
  post i out w := InGroup name i out.2 w
  rely_refl _ w := .refl w
  rely_trans _ _ _ _ h h' := h.trans h'
  post_rely _ _ _ _ _ hrely _ h := h.grow hrely.grow
  start_ok i p w w' hinv hstart := by
    obtain ⟨rfl, s, m, hstart, rfl⟩ := hstart
    exact ⟨hinv, fun _ _ => .refl _, machineWork_inGroup hinv hstart⟩
  answer_ok i op r w w' hinv hguard hans :=
    have h := hinv.answer hguard hans
    ⟨h.1, h.2.2⟩
  finish_ok i out w w' hinv hpost hfin := by
    obtain rfl : w' = _ := hfin
    obtain ⟨hinv', hrely⟩ := (hinv.persist hpost.recorded).leave i
    exact ⟨hinv', fun j hj => (GroupRely.persist i out.2).trans (hrely j hj)⟩
  crash_ok i w w' hinv hcrash := by
    obtain rfl : w' = _ := hcrash
    exact hinv.leave i
  env_ok w w' hinv henv := hinv.env henv

/-- Before there are machines. Of the groups with the tags of the cluster no two have the same name
and zone. -/
structure GroupWorld.Initial (name : String) (ri : RegionInfo) (w : GroupWorld ι) : Prop where
  groups : ∀ group zone, (groupIDs name w.groups group zone).length ≤ 1
  uuids : ∀ g ∈ w.groups, g.uuid ≠ ""
  clusters : AdmittedRun ri w.clusters
  machines : ∀ i, w.machines i = []
  statuses : ∀ i, w.statuses i = []

omit [DecidableEq ι] in
theorem GroupWorld.Initial.inv (h : w.Initial name ri) : GroupInv name ri w where
  unique := h.groups
  uuids := h.uuids
  clusters := h.clusters
  machines i hne := absurd (h.machines i) hne
  statuses i st hst := by simp [h.statuses i] at hst

/-- In every reachable state there is at most one group with the tags of the cluster for a name and
a zone; machines with the same group name have the same recorded UUID; and a server about to be
created for a machine with a group is created in the one group of that name, which is also the
recorded one. -/
theorem server_groups_agree (hinit : w.Initial name ri)
    {cfg : Runtime.Config (GroupWorld ι) ι Op Op.Reply (Except GoError Result × CloudscaleMachine)}
    (hreach : (groupFleet name ri).Reachable (.idle w) cfg) :
    (∀ group zone, (groupIDs name cfg.world.groups group zone).length ≤ 1) ∧
    (∀ i, ∀ m ∈ cfg.world.machines i, ∀ j, ∀ m' ∈ cfg.world.machines j, ∀ group group',
      m.spec.serverGroup = some group → m'.spec.serverGroup = some group' →
        group.name = group'.name → ∀ st ∈ cfg.world.statuses i, ∀ st' ∈ cfg.world.statuses j,
          st.serverGroupID ≠ "" → st'.serverGroupID ≠ "" → st.serverGroupID = st'.serverGroupID) ∧
    (∀ i req k, cfg.slot i = some (.call (.create .server req) k) →
      ∀ m ∈ cfg.world.machines i, ∀ group, m.spec.serverGroup = some group →
        ∃ u, groupIDs name cfg.world.groups group.name cfg.world.zone = [u] ∧
          req.serverGroups = [u] ∧
          ∀ j, ∀ m' ∈ cfg.world.machines j, ∀ group', m'.spec.serverGroup = some group' →
            group'.name = group.name → ∀ st ∈ cfg.world.statuses j,
              st.serverGroupID ≠ "" → st.serverGroupID = u) := by
  have hholds := (groupObligations name ri).reachable
    ((groupObligations name ri).holds_idle hinit.inv) hreach
  have hinv : GroupInv name ri cfg.world := hholds.world
  -- a recorded ID is that of the only group of the name
  have hstatus {j : ι} {m' : CloudscaleMachine} (hm' : m' ∈ cfg.world.machines j)
      {group' : ServerGroupSpec} (hgroup' : m'.spec.serverGroup = some group')
      {st : CloudscaleMachineStatus} (hst : st ∈ cfg.world.statuses j)
        (hne : st.serverGroupID ≠ "") :
      groupIDs name cfg.world.groups group'.name cfg.world.zone = [st.serverGroupID] :=
    hinv.groupIDs_eq (hinv.recorded (hinv.statuses j st hst) hne hm' hgroup')
  refine ⟨hinv.unique, ?_, ?_⟩
  · intro i m hm j m' hm' group group' hgroup hgroup' hsame st hst st' hst' hne hne'
    have hone := hstatus hm hgroup hst hne
    rw [hsame, hstatus hm' hgroup' hst' hne'] at hone
    exact (List.cons.inj hone).1.symm
  · intro i req k hslot m hm group hgroup
    obtain ⟨u, hu, hreq⟩ := (groupObligations name ri).guarded hholds hslot m hm group hgroup
    have hone := hinv.groupIDs_eq hu
    refine ⟨u, hone, hreq, fun j m' hm' group' hgroup' hsame st hst hne => ?_⟩
    have hone' := hstatus hm' hgroup' hst hne
    rw [hsame, hone] at hone'
    exact (List.cons.inj hone').1.symm

end

/-! ## Two machines -/

/-- A group with the UUID of its name. -/
def newGroup (req : ServerGroupRequest) : ServerGroup :=
  { uuid := "group-" ++ req.name, name := req.name, zone := req.zone, tags := req.tags }

/-- The replies that do not concern groups: there are no servers, and they can be created. -/
def otherReply (uuid : String) : (op : Op) → op.Reply
  | .list .server _ => .ok []
  | .create .server _ => .ok { uuid }
  | .getSecret _ _ => .ok [("value", "data")]
  | .get _ _ | .list _ _ | .create _ _ | .delete _ _ | .listMembers _ | .createMember _ _
  | .updateMember _ _ _ | .deleteMember _ _ | .createInterface _ _ | .deleteInterface _ _
  | .updateFloatingIP _ _ => .error (.other "")
  | .listMachines _ _ _ => .error (.other "")

/-- A project in which groups and servers can be created. -/
def serveGroups {ι : Type} (i : ι) (w : GroupWorld ι) : (op : Op) → op.Reply × GroupWorld ι
  | .list .serverGroup tags =>
    (.ok (w.groups.filter fun g => matchesTags tags g.tags),
      if w.groups = [] then { w with holder := some i } else w)
  | .create .serverGroup req =>
    (.ok (newGroup req), { w with groups := newGroup req :: w.groups, holder := none })
  | op => (otherReply "server" op, w)

/-- Requests are made only as the mutex allows. -/
def allowed {ι : Type} [DecidableEq ι] (i : ι) (w : GroupWorld ι) : (op : Op) → op.Reply → Bool
  | .list .serverGroup _, _ => w.holder = none
  | .create .serverGroup _, _ => w.holder = some i
  | _, _ => true

theorem serveGroups_answers {ι : Type} [DecidableEq ι] (i : ι) (w : GroupWorld ι) (op : Op)
    (h : allowed i w op (serveGroups i w op).1) :
    w.Answers i op (serveGroups i w op).1 (serveGroups i w op).2 := by
  cases op with
  | list k tags =>
      cases k with
      | serverGroup =>
          refine ⟨by simpa [allowed] using h, ?_, ?_⟩
          · simp only [serveGroups]
            split
            · exact .inr rfl
            · exact .inl rfl
          · rintro gs ⟨⟩ g
            exact List.mem_filter
      | _ => rfl
  | create k req =>
      cases k with
      | serverGroup =>
          refine ⟨by simpa [allowed] using h, .inl ⟨newGroup req, ?_, rfl, rfl, rfl, ?_, rfl⟩⟩
          · simp [newGroup]
          · rintro g ⟨⟩
            rfl
      | _ => rfl
  | _ => rfl

/-- A machine with a group. -/
def groupedMachine (name : String) : CloudscaleMachine :=
  machineDefault { metadata := { name, ns := "default" }
                   spec :=
                     { flavor := "flex-4-2", serverGroup := some { name := "control-plane" } } }

/-- The scope of its passes: the cluster has a network. -/
def groupScope : MachineScope where
  cluster := { name := "c", ns := "default" }
  machine := { ns := "default", dataSecretName := some "boot" }
  cloudscaleCluster := { storedCluster with
    status := { networks := [{ name := "net", networkID := "n", subnetID := "s" }] } }

/-- Two machines are stored, and there are no groups. -/
def twoMachines : GroupWorld Bool where
  groups := []
  holder := none
  clusters := [storedCluster]
  machines b := [groupedMachine (if b then "m1" else "m0")]
  statuses _ := []

def emptyProject : GroupWorld Bool := { twoMachines with machines := fun _ => [] }

/-- The pass of a machine, from an empty status. -/
def groupPass (b : Bool) (w : GroupWorld Bool) :
    (Except GoError Result × CloudscaleMachine) × GroupWorld Bool :=
  (machineWork groupScope (groupedMachine (if b then "m1" else "m0"))).drive (serveGroups b) w

def afterGroupPass (b : Bool) (w : GroupWorld Bool) : GroupWorld Bool :=
  ((groupPass b w).2.persist b (groupPass b w).1.2).leave b

theorem emptyProject_initial : emptyProject.Initial "c" oneRegion where
  groups _ _ := Nat.zero_le 1
  uuids _ h := absurd h List.not_mem_nil
  clusters := .create (by decide) (by decide)
  machines _ := rfl
  statuses _ := rfl

theorem twoMachines_reachable :
    (groupFleet "c" oneRegion).Reachable (.idle emptyProject) (.idle twoMachines) := by
  have hadmitted (name : String) : AdmittedMachines [groupedMachine name] :=
    @AdmittedMachines.create none _ rfl
  have hstore (w : GroupWorld Bool) (b : Bool) (name : String) (hnone : w.machines b = []) :
      (groupFleet "c" oneRegion).Step (.idle w)
        (.idle { w with machines := Function.update w.machines b [groupedMachine name] }) := by
    have henv : w.Env "c" oneRegion
        { w with
          machines := Function.update w.machines b (w.machines b ++ [groupedMachine name]) } :=
      .storeMachine (by rw [hnone]; exact hadmitted name)
    rw [hnone] at henv
    exact .env henv
  have hboth := (Relation.ReflTransGen.single (hstore emptyProject false "m0" rfl)).tail
    (hstore _ true "m1" rfl)
  have heq : Function.update
    (Function.update emptyProject.machines false [groupedMachine "m0"]) true
      [groupedMachine "m1"] = twoMachines.machines := by
    funext b
    cases b <;> rfl
  rw [heq] at hboth
  exact hboth

theorem afterGroupPass_reachable {w : GroupWorld Bool} (b : Bool)
    (hclusters : storedCluster ∈ w.clusters)
    (hmachine : groupedMachine (if b then "m1" else "m0") ∈ w.machines b)
    (hserved : (machineWork groupScope (groupedMachine (if b then "m1" else "m0"))).served
      (serveGroups b) (allowed b) w) :
    (groupFleet "c" oneRegion).Reachable (.idle w) (.idle (afterGroupPass b w)) := by
  have hstarts : w.Starts "c" b groupScope (groupedMachine (if b then "m1" else "m0")) :=
    ⟨⟨_, hclusters, rfl⟩, rfl, ⟨_, hmachine, rfl⟩, ⟨{}, .inl rfl, rfl⟩⟩
  exact (groupFleet "c" oneRegion).reachable_finished ⟨rfl, _, _, hstarts, rfl⟩
    (Program.executes_drive (allowed b) (serveGroups_answers b) _ _ hserved) rfl

/-- The first machine creates the group and the second finds it. -/
theorem server_groups_agree_two :
    (groupPass true (afterGroupPass false twoMachines)).1.2.status.serverGroupID =
        "group-control-plane" ∧
      (groupPass false twoMachines).1.2.status.serverGroupID =
        (groupPass true (afterGroupPass false twoMachines)).1.2.status.serverGroupID := by
  have hfirst : (groupPass false twoMachines).1.2.status.serverGroupID ≠ "" := by decide +kernel
  have hsecond : (groupPass true (afterGroupPass false twoMachines)).1.2.status.serverGroupID =
      "group-control-plane" := by decide +kernel
  have hreach : (groupFleet "c" oneRegion).Reachable (.idle emptyProject)
      (.idle (afterGroupPass true (afterGroupPass false twoMachines))) :=
    (twoMachines_reachable.trans
      (afterGroupPass_reachable false (by decide +kernel) (by decide +kernel)
      (by decide +kernel))).trans (afterGroupPass_reachable true (by decide +kernel)
        (by decide +kernel) (by decide +kernel))
  refine ⟨hsecond, ?_⟩
  have hagree := (server_groups_agree emptyProject_initial hreach).2.1 false (groupedMachine "m0")
    (by decide +kernel) true (groupedMachine "m1") (by decide +kernel) _ _ rfl rfl rfl
  exact hagree _ (by decide +kernel) _ (by decide +kernel) hfirst (by rw [hsecond]; decide)

end Capcs.System
