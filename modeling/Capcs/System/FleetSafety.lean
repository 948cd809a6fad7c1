import Capcs.System.Fleet

/-!
# Capcs.System.FleetSafety — what holds in every state of the fleet

For tenants that keep apart:

* `FleetInv` — the invariant of the world: the cloud is in order, and every persisted
  status only names resources of its own cluster (`Backed`).
* `fleetObligations` — every worker keeps it.
* `fleet_holds` — it holds in every reachable configuration, and what every running
  worker still has to do is within its contract.
-/

namespace Capcs.System

open Cloudscale Controller Ownership Webhook
open Interaction (Program Runtime Contract)
open Interaction.Contract

variable {ι : Type} {P : Project ι} {ri : RegionInfo} {fl : Fleet ι} {i : ι} {v : Worker ι}
  {c : CloudscaleCluster} {hist : List CloudscaleCluster}

/-! ## Histories of specs -/

/-- What a history of stored specs admits. -/
def admittedBy (T : Tenant) (hist : List CloudscaleCluster) : Admitted where
  cluster := T.cluster
  name := T.name
  networks := hist.flatMap (·.spec.networks)
  routers := hist.flatMap (·.spec.routers)
  floatingIP := hist.head?.bind (·.spec.floatingIP)

theorem serves_of_run (hrun : AdmittedRun ri hist) (hstored : ∀ c ∈ hist, Stored (P.tenant i) c) :
    P.Serves i (admittedBy (P.tenant i) hist) := by
  have hagree := hrun.coherent.agree
  refine ⟨rfl, rfl, ?_, ?_, ?_, ?_, ?_, ?_, ?_⟩
  · intro n hn hu
    obtain ⟨c, hc, hn⟩ := List.mem_flatMap.mp hn
    exact (hstored c hc).networks n hn hu
  · intro r hr hu
    obtain ⟨c, hc, hr⟩ := List.mem_flatMap.mp hr
    exact (hstored c hc).routers r hr hu
  · intro n hn n' hn' he
    obtain ⟨c, hc, hn⟩ := List.mem_flatMap.mp hn
    obtain ⟨c', hc', hn'⟩ := List.mem_flatMap.mp hn'
    exact (hagree c hc c' hc').networks n hn n' hn' he
  · intro r hr r' hr' he
    obtain ⟨c, hc, hr⟩ := List.mem_flatMap.mp hr
    obtain ⟨c', hc', hr'⟩ := List.mem_flatMap.mp hr'
    exact (hagree c hc c' hc').routers r hr r' hr' he
  · intro n hn
    obtain ⟨c, hc, hn⟩ := List.mem_flatMap.mp hn
    exact (hstored c hc).adopts.networks n hn
  · intro r hr
    obtain ⟨c, hc, hr⟩ := List.mem_flatMap.mp hr
    exact (hstored c hc).adopts.routers r hr
  · intro f hf
    obtain ⟨c, hc, hf⟩ := Option.mem_bind_iff.mp hf
    exact (hstored c (List.mem_of_mem_head? hc)).adopts.floatingIP f hf

/-- The floating IP of a history is that of each of its specs. -/
theorem admittedBy_floatingIP {T : Tenant} (hrun : AdmittedRun ri hist) (hc : c ∈ hist) :
    (admittedBy T hist).floatingIP = c.spec.floatingIP := by
  cases hist with
  | nil => cases hc
  | cons first rest =>
      exact (hrun.coherent.agree first List.mem_cons_self c hc).floatingIP

theorem covers_of_stored {T : Tenant} (hrun : AdmittedRun ri hist) {stored c : CloudscaleCluster}
    (hs : stored ∈ hist) (hname : c.metadata.name = T.name)
    (hspec : c.spec = { stored.spec with controlPlaneEndpoint := c.spec.controlPlaneEndpoint }) :
    (admittedBy T hist).Covers c.metadata.name c.spec := by
  have hnet : c.spec.networks = stored.spec.networks := by rw [hspec]
  have hrouter : c.spec.routers = stored.spec.routers := by rw [hspec]
  have hfip : c.spec.floatingIP = stored.spec.floatingIP := by rw [hspec]
  refine ⟨hname, ?_, ?_, ?_⟩
  · intro n hn
    exact List.mem_flatMap.mpr ⟨stored, hs, hnet ▸ hn⟩
  · intro r hr
    exact List.mem_flatMap.mpr ⟨stored, hs, hrouter ▸ hr⟩
  · rw [hfip, admittedBy_floatingIP hrun hs]

/-! ## Statuses that were persisted -/

/-- The status only names resources of cluster `i`, as the specs stored up to some
point admit them. -/
def Backed (P : Project ι) (i : ι) (fl : Fleet ι) (st : CloudscaleClusterStatus) : Prop :=
  ∃ hist c, hist ≠ [] ∧ hist <+: fl.specs i ∧ c.status = st ∧
    ClusterOK P.slots (P.clusterRole i) False (admittedBy (P.tenant i) hist) none c fl.cloud

/-- The invariant of the world. -/
structure FleetInv (P : Project ι) (ri : RegionInfo) (fl : Fleet ι) : Prop where
  cloud : Inv P.slots fl.cloud
  runs : ∀ i, fl.specs i ≠ [] → AdmittedRun ri (fl.specs i)
  stored : ∀ i, ∀ c ∈ fl.specs i, Stored (P.tenant i) c
  statuses : ∀ i, ∀ st ∈ fl.statuses i, Backed P i fl st
  machines : ∀ i n, ∀ st ∈ fl.machineStatuses i n, Own fl.cloud i .server st.serverID

/-- Nothing that was created for any cluster is forgotten, and no spec is. -/
structure Advances (fl fl' : Fleet ι) : Prop where
  created : ∀ i, Remembers i fl.cloud fl'.cloud
  specs : ∀ i, fl.specs i <+: fl'.specs i

theorem Advances.refl (fl : Fleet ι) : Advances fl fl :=
  ⟨fun _ _ _ h => h, fun _ => List.prefix_rfl⟩

theorem Backed.advance {fl fl' : Fleet ι} {st : CloudscaleClusterStatus} (h : Backed P i fl st)
    (ha : Advances fl fl') : Backed P i fl' st := by
  obtain ⟨hist, c, hne, hpre, hst, hok⟩ := h
  exact ⟨hist, c, hne, hpre.trans (ha.specs i), hst,
    hok.move (ha.created i) fun hc => hc.elim⟩

/-- A persisted status is in order for every spec stored so far. -/
theorem Backed.clusterOK (hinv : FleetInv P ri fl) {st : CloudscaleClusterStatus}
    (h : Backed P i fl st)
    (hcovers : (admittedBy (P.tenant i) (fl.specs i)).Covers c.metadata.name c.spec)
    (hst : c.status = { st with conditions := c.status.conditions }) :
    ClusterOK P.slots (P.clusterRole i) False (admittedBy (P.tenant i) (fl.specs i)) none c
      fl.cloud := by
  obtain ⟨hist, c₁, hne, hpre, rfl, hok⟩ := h
  have hne' : fl.specs i ≠ [] := fun he => hne (List.prefix_nil.mp (he ▸ hpre))
  have hfits := (serves_of_run (hinv.runs i hne') (hinv.stored i)).fits
  have hmem : ∀ x ∈ hist, x ∈ fl.specs i := fun x hx => hpre.subset hx
  have hfip : (admittedBy (P.tenant i) (fl.specs i)).floatingIP =
      (admittedBy (P.tenant i) hist).floatingIP := by
    obtain ⟨rest, hrest⟩ := hpre
    cases hist with
    | nil => exact absurd rfl hne
    | cons first more => rw [← hrest]; rfl
  have hbare : ClusterOK P.slots (P.clusterRole i) False (admittedBy (P.tenant i) (fl.specs i)) none
      { c with status := c₁.status } fl.cloud := by
    refine ⟨hfits, hcovers, ?_, ?_, hok.loadBalancer, hok.pool, hok.listener, hok.healthMonitor,
      ?_, fun hc => hc.elim⟩
    · intro e he
      obtain ⟨n, hn, hrest⟩ := hok.networks e he
      obtain ⟨x, hx, hn⟩ := List.mem_flatMap.mp hn
      exact ⟨n, List.mem_flatMap.mpr ⟨x, hmem x hx, hn⟩, hrest⟩
    · intro e he
      obtain ⟨r, hr, hrest⟩ := hok.routers e he
      obtain ⟨x, hx, hr⟩ := List.mem_flatMap.mp hr
      exact ⟨r, List.mem_flatMap.mpr ⟨x, hmem x hx, hr⟩, hrest⟩
    · rw [hfip]
      exact hok.floatingIP
  -- the conditions are not read
  exact hbare.edit rfl rfl (by rw [hst]; rfl)

/-- So is the empty one. -/
theorem emptyStatus_clusterOK (hinv : FleetInv P ri fl) (hne : fl.specs i ≠ [])
    (hcovers : (admittedBy (P.tenant i) (fl.specs i)).Covers c.metadata.name c.spec)
    (hids : recordedIDs c.status = recordedIDs {}) :
    ClusterOK P.slots (P.clusterRole i) False (admittedBy (P.tenant i) (fl.specs i)) none c
      fl.cloud := by
  have hfits := (serves_of_run (hinv.runs i hne) (hinv.stored i)).fits
  have hbare : ClusterOK P.slots (P.clusterRole i) False (admittedBy (P.tenant i) (fl.specs i)) none
      { c with status := {} } fl.cloud := by
    refine ⟨hfits, hcovers, ?_, ?_, ?_, ?_, ?_, ?_, ?_, fun hc => hc.elim⟩
    · intro e he
      cases he
    · intro e he
      cases he
    all_goals simp [Own]
  exact hbare.edit rfl rfl hids

/-- Whatever a pass may start from is in order. -/
theorem Started.clusterOK (hinv : FleetInv P ri fl) (hne : fl.specs i ≠ [])
    (h : Started (fl.statuses i) c.status)
    (hcovers : (admittedBy (P.tenant i) (fl.specs i)).Covers c.metadata.name c.spec) :
    ClusterOK P.slots (P.clusterRole i) False (admittedBy (P.tenant i) (fl.specs i)) none c
      fl.cloud := by
  obtain ⟨st₀, hst₀, heq⟩ := h
  rcases hst₀ with rfl | hmem
  · refine emptyStatus_clusterOK hinv hne hcovers ?_
    rw [heq]
    rfl
  · exact (hinv.statuses i st₀ hmem).clusterOK hinv hcovers heq

/-! ## Workers -/

/-- The role of a worker. -/
def roleOf (P : Project ι) : Worker ι → Role ι
  | .cluster i => P.clusterRole i
  | .machine i n => P.machineRole i n

theorem roleOf_owner (P : Project ι) (v : Worker ι) : (roleOf P v).owner = v.owner := by
  cases v <;> rfl

/-- A worker only creates in slots of its own tenant. -/
theorem roleOf_turf (P : Project ι) (v : Worker ι) {k : Kind} {t : TagMap}
    (h : (roleOf P v).turf k t) : P.slots (roleOf P v).owner k t ∧ k ≠ .serverGroup := by
  cases v with
  | cluster i => exact ⟨h.1, h.2.2⟩
  | machine i n =>
      obtain ⟨rfl, rfl⟩ := h
      exact ⟨⟨n, rfl⟩, by simp⟩

/-- Two workers keep apart. -/
theorem roleOf_apart (P : Project ι) {v v' : Worker ι} (hne : v ≠ v') :
    Apart P.slots (roleOf P v) (roleOf P v') := by
  cases v with
  | cluster i =>
      cases v' with
      | cluster j => exact P.clusterRoles_apart fun he => hne (by rw [he])
      | machine j n => exact P.cluster_machine_apart i j n
  | machine i n =>
      cases v' with
      | cluster j => exact P.machine_cluster_apart j i n
      | machine j n' =>
          refine P.machineRoles_apart fun he => hne ?_
          obtain ⟨rfl, rfl⟩ := Prod.mk.inj he
          rfl

/-- What a worker may count on. -/
structure WorkerRely (P : Project ι) (v : Worker ι) (fl fl' : Fleet ι) : Prop where
  rely : Rely (roleOf P v) fl.cloud fl'.cloud
  advances : Advances fl fl'

/-- How a worker ends. -/
def WorkerPost (P : Project ι) : Worker ι → Outcome → Fleet ι → Prop
  | .cluster i, .cluster _ c, fl => Backed P i fl c.status
  | .machine i _, .machine _ m, fl => Own fl.cloud i .server m.status.serverID
  | _, _, _ => True

theorem WorkerPost.advance {out : Outcome} {fl fl' : Fleet ι} (h : WorkerPost P v out fl)
    (ha : Advances fl fl') : WorkerPost P v out fl' := by
  cases v <;> cases out
  case cluster.cluster i out c => exact Backed.advance h ha
  case machine.machine i n out m => exact Own.grows h (ha.created i)
  all_goals trivial

/-- The contract of a worker. -/
abbrev workerContract [DecidableEq ι] (P : Project ι) (ri : RegionInfo) (v : Worker ι) :
    Contract (Fleet ι) Op Op.Reply where
  inv := FleetInv P ri
  rely := WorkerRely P v
  guard fl op := Guard P.slots (roleOf P v) fl.cloud op
  answer := (fleet P.tenant ri).answer v

/-- A program proved against the cloud alone runs in the fleet, next to a fact about
the specs stored so far. -/
theorem worker_wp [DecidableEq ι] {α : Type} {Q : α → World ι → Prop} {p : Program Op Op.Reply α}
    (hpre : hist <+: fl.specs v.owner) (h : (api P.slots (roleOf P v) False).wp Q p fl.cloud) :
    (workerContract P ri v).wp (fun a fl' => Q a fl'.cloud ∧ hist <+: fl'.specs v.owner) p fl := by
  refine wp_lift Fleet.cloud (fun fl' => hist <+: fl'.specs v.owner) ?_ ?_ ?_ ?_ p fl hpre h
  · intro fl' hinv
    exact hinv.cloud
  · intro fl₁ fl₂ hr hK
    exact ⟨⟨hr.rely, fun hc => hc.elim⟩, hK.trans (hr.advances.specs _)⟩
  · intro fl' op hg
    exact hg
  · intro fl₁ op r fl₂ hans hK
    obtain ⟨hans, heq⟩ := hans
    refine ⟨⟨(roleOf_owner P v).symm ▸ hans, fun hc => hc.elim⟩, ?_⟩
    rw [heq]
    exact hK

/-- An entry after an update at `i` is a new one, or was there before. -/
theorem mem_update {κ α : Type} [DecidableEq κ] {f : κ → List α} {i j : κ} {l : List α} {x : α}
    (h : x ∈ Function.update f i l j) : (j = i ∧ x ∈ l) ∨ x ∈ f j := by
  by_cases hji : j = i
  · subst hji
    rw [Function.update_self] at h
    exact .inl ⟨rfl, h⟩
  · rw [Function.update_of_ne hji] at h
    exact .inr h

/-! ## Starting a worker -/

section

variable [DecidableEq ι]

theorem clusterJob_wp (hinv : FleetInv P ri fl) {stored c : CloudscaleCluster}
    (hstored : stored ∈ fl.specs i) (hname : c.metadata.name = (P.tenant i).name)
    (hspec : c.spec = { stored.spec with controlPlaneEndpoint := c.spec.controlPlaneEndpoint })
    (hstart : Started (fl.statuses i) c.status) :
    (workerContract P ri (.cluster i)).wp (WorkerPost P (.cluster i))
      (clusterJob (P.tenant i).cluster c) fl := by
  have hne : fl.specs i ≠ [] := List.ne_nil_of_mem hstored
  have hcovers := covers_of_stored (T := P.tenant i) (hinv.runs i hne) hstored hname hspec
  have hok := hstart.clusterOK hinv hne hcovers
  have hwork := clusterWork_spec hinv.cloud hok
  rw [clusterJob, wp_bind]
  refine wp_mono _ _ hinv ?_ (worker_wp (v := .cluster i) (List.prefix_refl (fl.specs i)) hwork)
  rintro ⟨out, c'⟩ fl' - ⟨hend, hpre⟩
  exact ⟨fl.specs i, c', hne, hpre, rfl, hend.ok⟩

theorem freeTags_of_admitted {m : CloudscaleMachine} (h : MachineAdmitted m) :
    FreeTags m.spec.tags := by
  rcases h with ⟨flavors, hacc⟩ | ⟨old, hacc⟩
  · exact freeTags_of_create hacc
  · exact freeTags_of_update hacc

theorem machineJob_wp (hinv : FleetInv P ri fl) {s : MachineScope} {m : CloudscaleMachine}
    (hcluster : s.cluster = (P.tenant i).cluster)
    (hname : s.cloudscaleCluster.metadata.name = (P.tenant i).name) (hadm : MachineAdmitted m)
    (hstart : MachineStarted (fl.machineStatuses i m.metadata.name) m.status) :
    (workerContract P ri (.machine i m.metadata.name)).wp
      (WorkerPost P (.machine i m.metadata.name)) (machineJob s m) fl := by
  have hserver : Own fl.cloud i .server m.status.serverID := by
    obtain ⟨st₀, hst₀, heq⟩ := hstart
    rw [heq]
    rcases hst₀ with rfl | hmem
    · exact .inl rfl
    · exact hinv.machines i _ st₀ hmem
  have hfits := P.machineFits hcluster hname (freeTags_of_admitted hadm) m.metadata.name
  have hwork : (api P.slots (P.machineRole i m.metadata.name) False).wp _ (machineWork s m)
      fl.cloud := machineWork_spec hinv.cloud hfits hserver fun hc => hc.elim
  rw [machineJob, wp_bind]
  refine wp_mono _ _ hinv ?_
    (worker_wp (v := .machine i m.metadata.name) (List.prefix_refl (fl.specs i)) hwork)
  rintro ⟨out, m'⟩ fl' - ⟨hend, -⟩
  exact hend.server

theorem starts_wp (hinv : FleetInv P ri fl) {p : Job} (h : fl.Starts P.tenant v p) :
    (workerContract P ri v).wp (WorkerPost P v) p fl := by
  cases h with
  | cluster hstored hname hspec hstart => exact clusterJob_wp hinv hstored hname hspec hstart
  | machine hcluster hname hadm hstart => exact machineJob_wp hinv hcluster hname hadm hstart

/-! ## Moves of the world -/

omit [DecidableEq ι] in
/-- The cloud moves on. -/
theorem FleetInv.moveCloud (h : FleetInv P ri fl) {w' : World ι} (hinv : Inv P.slots w')
    (hg : ∀ j, Remembers j fl.cloud w') : FleetInv P ri { fl with cloud := w' } := by
  have ha : Advances fl { fl with cloud := w' } := ⟨hg, fun _ => List.prefix_rfl⟩
  refine ⟨hinv, h.runs, h.stored, ?_, ?_⟩
  · intro i st hst
    exact (h.statuses i st hst).advance ha
  · intro i n st hst
    exact (h.machines i n st hst).grows (hg i)

omit [DecidableEq ι] in
/-- Nothing that was created is forgotten. -/
theorem answers_grows {o : ι} {w w' : World ι} {op : Op} {r : op.Reply}
    (h : Answers o w op r w') (j : ι) : Remembers j w w' := by
  intro k u hu
  cases h with
  | create_ok | create_lost => exact List.mem_cons_of_mem _ hu
  | _ => exact hu

theorem FleetInv.answer (h : FleetInv P ri fl) {op : Op} {r : op.Reply} {fl' : Fleet ι}
    (hguard : Guard P.slots (roleOf P v) fl.cloud op)
    (hans : (fleet P.tenant ri).answer v fl op r fl') :
    FleetInv P ri fl' ∧ ∀ v', v' ≠ v → WorkerRely P v' fl fl' := by
  obtain ⟨hans, heq⟩ := hans
  have hgrows := answers_grows hans
  rw [← roleOf_owner P v] at hans
  obtain ⟨hinv, hrely⟩ := inv_answers h.cloud hguard hans
  rw [heq]
  refine ⟨h.moveCloud hinv hgrows, ?_⟩
  intro v' hne
  exact ⟨hrely _ (roleOf_apart P hne.symm), hgrows, fun _ => List.prefix_rfl⟩

/-- A persisted status is one that a worker ended with. -/
theorem FleetInv.persist (h : FleetInv P ri fl) {out : Outcome} {fl' : Fleet ι}
    (hpost : WorkerPost P v out fl) (hp : fl.persist v out = some fl') :
    FleetInv P ri fl' ∧ fl'.cloud = fl.cloud ∧ fl'.specs = fl.specs := by
  cases v <;> cases out <;> simp only [Fleet.persist, Option.some.injEq, reduceCtorEq] at hp
  -- only the status of the object the worker reconciles is written
  case cluster.cluster i out c =>
      subst hp
      refine ⟨⟨h.cloud, h.runs, h.stored, ?_, h.machines⟩, rfl, rfl⟩
      intro j st hst
      rcases mem_update hst with ⟨rfl, hst⟩ | hst
      · rcases List.mem_cons.mp hst with rfl | hst
        · exact hpost
        · exact h.statuses j st hst
      · exact h.statuses j st hst
  case machine.machine i n out m =>
      subst hp
      refine ⟨⟨h.cloud, h.runs, h.stored, h.statuses, ?_⟩, rfl, rfl⟩
      intro j n' st hst
      by_cases hji : j = i
      · subst hji
        simp only [Function.update_self] at hst
        rcases mem_update hst with ⟨rfl, hst⟩ | hst
        · rcases List.mem_cons.mp hst with rfl | hst
          · exact hpost
          · exact h.machines j n' st hst
        · exact h.machines j n' st hst
      · simp only [Function.update_of_ne hji] at hst
        exact h.machines j n' st hst

/-- What others do keeps the invariant and is within what every worker relies on. -/
theorem FleetInv.env (h : FleetInv P ri fl) {fl' : Fleet ι} (he : fl.Env P.tenant ri fl') :
    FleetInv P ri fl' ∧ ∀ v, WorkerRely P v fl fl' := by
  cases he with
  | remove k id =>
      have hg : ∀ j, Remembers j fl.cloud (fl.cloud.remove k id) := fun _ _ _ hu => hu
      exact ⟨h.moveCloud (inv_remove h.cloud k id) hg,
        fun v => ⟨rely_remove _ _ k id, hg, fun _ => List.prefix_rfl⟩⟩
  | removeMember pool id =>
      have hg : ∀ j, Remembers j fl.cloud (fl.cloud.removeMember pool id) := fun _ _ _ hu => hu
      exact ⟨h.moveCloud (inv_removeMember h.cloud pool id) hg,
        fun v => ⟨rely_removeMember _ _ pool id, hg, fun _ => List.prefix_rfl⟩⟩
  | @insert k i hf =>
      have hg : ∀ j, Remembers j fl.cloud (fl.cloud.insert k i) := fun _ _ _ hu => hu
      refine ⟨h.moveCloud (inv_insert h.cloud hf) hg, fun v => ⟨?_, hg, fun _ => List.prefix_rfl⟩⟩
      exact rely_insert (fun k t ht => (roleOf_turf P v ht).1) hf
  | @createMember m hf =>
      have hg : ∀ j, Remembers j fl.cloud (fl.cloud.createMember m) := fun _ _ _ hu => hu
      exact ⟨h.moveCloud (inv_foreignMember h.cloud hf) hg,
        fun v => ⟨rely_foreignMember hf, hg, fun _ => List.prefix_rfl⟩⟩
  | @store i c hrun hstored =>
      -- the cloud stays, and the history of one object grows
      have ha : Advances fl { fl with
          specs := Function.update fl.specs i (fl.specs i ++ [c]) } := by
        refine ⟨fun _ _ _ hu => hu, fun j => ?_⟩
        by_cases hji : j = i
        · subst hji
          simp only [Function.update_self]
          exact List.prefix_append _ _
        · simp only [Function.update_of_ne hji]
          exact List.prefix_rfl
      refine ⟨⟨h.cloud, ?_, ?_, fun j st hst => (h.statuses j st hst).advance ha, h.machines⟩,
        fun v => ⟨.refl _ _, ha⟩⟩
      · intro j hne
        by_cases hji : j = i
        · subst hji
          simpa only [Function.update_self] using hrun
        · simp only [Function.update_of_ne hji] at hne ⊢
          exact h.runs j hne
      · intro j c' hc'
        rcases mem_update hc' with ⟨rfl, hc'⟩ | hc'
        · rcases List.mem_append.mp hc' with hc' | hc'
          · exact h.stored j c' hc'
          · exact List.mem_singleton.mp hc' ▸ hstored
        · exact h.stored j c' hc'

/-! ## The whole system -/

/-- Every worker keeps to its contract, and the contracts fit together. -/
def fleetObligations (P : Project ι) (ri : RegionInfo) :
    Runtime.Obligations (fleet P.tenant ri) where
  inv := FleetInv P ri
  rely := WorkerRely P
  guard v fl op := Guard P.slots (roleOf P v) fl.cloud op
  post := WorkerPost P
  rely_refl v fl := ⟨.refl _ _, .refl fl⟩
  rely_trans v a b c h h' := ⟨h.rely.trans h'.rely, fun i => (h.advances.created i).trans
    (h'.advances.created i), fun i => (h.advances.specs i).trans (h'.advances.specs i)⟩
  post_rely v out fl fl' _ hr _ hp := hp.advance hr.advances
  start_ok v p fl fl' hinv hstart := by
    obtain ⟨rfl, hstart⟩ := hstart
    exact ⟨hinv, fun _ _ => ⟨.refl _ _, .refl _⟩, starts_wp hinv hstart⟩
  answer_ok v op r fl fl' hinv hguard hans := hinv.answer hguard hans
  finish_ok v out fl fl' hinv hpost hfin := by
    obtain ⟨hinv', hcloud, hspecs⟩ := hinv.persist hpost hfin
    refine ⟨hinv', fun v' _ => ⟨?_, ?_, ?_⟩⟩
    · rw [hcloud]
      exact .refl _ _
    · intro i
      rw [hcloud]
      exact fun _ _ hu => hu
    · intro i
      have hsame : fl.specs i = fl'.specs i := by rw [hspecs]
      exact hsame ▸ List.prefix_rfl
  crash_ok v fl fl' hinv hcrash := by
    obtain rfl : fl' = fl := hcrash
    exact ⟨hinv, fun _ _ => ⟨.refl _ _, .refl _⟩⟩
  env_ok fl fl' hinv henv := hinv.env henv

omit [DecidableEq ι] in
theorem Fleet.Initial.inv (h : fl.Initial P.tenant) : FleetInv P ri fl where
  cloud := h.cloud.inv
  runs i hne := absurd (h.specs i) hne
  stored i c hc := by simp [h.specs i] at hc
  statuses i st hst := by simp [h.statuses i] at hst
  machines i n st hst := by simp [h.machineStatuses i n] at hst

/-- The invariant holds in every reachable configuration. -/
theorem fleet_holds (h : fl.Initial P.tenant)
    {c : Runtime.Config (Fleet ι) (Worker ι) Op Op.Reply Outcome}
    (hreach : (fleet P.tenant ri).Reachable (.idle fl) c) : (fleetObligations P ri).Holds c :=
  (fleetObligations P ri).reachable ((fleetObligations P ri).holds_idle h.inv) hreach

end

end Capcs.System
