import Capcs.Cloudscale.Simulator
import Capcs.Interaction.Runtime
import Capcs.Ownership.Passes
import Capcs.Ownership.Tenant
import Capcs.Webhook.Admission

/-!
# Capcs.System.Fleet — clusters and machines sharing a project

Any number of clusters with their machines, reconciled side by side in one project.
The requests of running passes interleave one by one. A pass may start from any spec
the API server ever stored and any status ever persisted, or an empty one; it may be
cut off at any point. Others delete resources, and create resources of their own.

The system is `fleet`, a `Runtime`; what holds in it is in `Capcs.System.FleetSafety`.
In `openFleet` addresses of released floating IPs are handed out again. A run of it
that issues no address twice is one of `fleet` (`reachable_issuedOnce`).
-/

namespace Capcs.System

open Cloudscale Controller Ownership Webhook
open Interaction (Program Runtime Contract)

variable {ι : Type}

/-! ## The system -/

/-- The project, and what the Kubernetes API has stored for each tenant: the specs
of its `CloudscaleCluster`, oldest first, and the statuses of it and of its machines. -/
structure Fleet (ι : Type) where
  cloud : World ι
  specs : ι → List CloudscaleCluster
  statuses : ι → List CloudscaleClusterStatus
  machineStatuses : ι → String → List CloudscaleMachineStatus

/-- Who is at work. -/
inductive Worker (ι : Type) where
  | cluster (i : ι)
  | machine (i : ι) (name : String)
  deriving DecidableEq

/-- Whom a worker works for. -/
def Worker.owner : Worker ι → ι
  | .cluster i | .machine i _ => i

/-- What a worker returns. -/
inductive Outcome where
  | cluster (out : Except GoError Result) (c : CloudscaleCluster)
  | machine (out : Except GoError Result) (m : CloudscaleMachine)

abbrev Job := Program Op Op.Reply Outcome

def clusterJob (cluster : Cluster) (c : CloudscaleCluster) : Job :=
  clusterWork cluster c >>= fun r => .ret (.cluster r.1 r.2)

def machineJob (s : MachineScope) (m : CloudscaleMachine) : Job :=
  machineWork s m >>= fun r => .ret (.machine r.1 r.2)

/-- A status that was persisted, or none; conditions may have been edited since. -/
def Started (statuses : List CloudscaleClusterStatus) (st : CloudscaleClusterStatus) : Prop :=
  ∃ st₀, (st₀ = {} ∨ st₀ ∈ statuses) ∧ st = { st₀ with conditions := st.conditions }

theorem started_of_mem {statuses : List CloudscaleClusterStatus} {st : CloudscaleClusterStatus}
    (h : st ∈ statuses) : Started statuses st := ⟨st, .inr h, by cases st; rfl⟩

/-- The same for a machine. -/
def MachineStarted (statuses : List CloudscaleMachineStatus) (st : CloudscaleMachineStatus) :
    Prop :=
  ∃ st₀, (st₀ = {} ∨ st₀ ∈ statuses) ∧ st = { st₀ with conditions := st.conditions }

/-- The webhook has admitted the machine. -/
def MachineAdmitted (m : CloudscaleMachine) : Prop :=
  (∃ flavors, (machineValidateCreate flavors m).Accepted) ∨
    ∃ old, (machineValidateUpdate old m).Accepted

/-- How workers start. -/
inductive Fleet.Starts (T : ι → Tenant) (fl : Fleet ι) : Worker ι → Job → Prop where
  | cluster {i : ι} {stored c : CloudscaleCluster} : stored ∈ fl.specs i →
      c.metadata.name = (T i).name →
      c.spec = { stored.spec with controlPlaneEndpoint := c.spec.controlPlaneEndpoint } →
      Started (fl.statuses i) c.status →
      Fleet.Starts T fl (.cluster i) (clusterJob (T i).cluster c)
  | machine {i : ι} {s : MachineScope} {m : CloudscaleMachine} : s.cluster = (T i).cluster →
      s.cloudscaleCluster.metadata.name = (T i).name → MachineAdmitted m →
      MachineStarted (fl.machineStatuses i m.metadata.name) m.status →
      Fleet.Starts T fl (.machine i m.metadata.name) (machineJob s m)

/-- What is persisted when a worker is done. -/
def Fleet.persist [DecidableEq ι] (fl : Fleet ι) : Worker ι → Outcome → Option (Fleet ι)
  | .cluster i, .cluster _ c =>
    some { fl with statuses := Function.update fl.statuses i (c.status :: fl.statuses i) }
  | .machine i n, .machine _ m =>
    let mine := Function.update (fl.machineStatuses i) n (m.status :: fl.machineStatuses i n)
    some { fl with machineStatuses := Function.update fl.machineStatuses i mine }
  | _, _ => none

/-- The filters of all tenants. -/
def slotsOf (T : ι → Tenant) : Slots ι := fun i => (T i).slot

/-- A spec the API server may store for a tenant. -/
structure Stored (T : Tenant) (c : CloudscaleCluster) : Prop where
  name : c.metadata.name = T.name
  networks : ∀ n ∈ c.spec.networks, n.uuid = "" → T.networks n.name
  routers : ∀ r ∈ c.spec.routers, r.uuid = "" → T.routers r.name
  adopts : T.Adopts c.spec.networks c.spec.routers c.spec.floatingIP

/-- What others do: delete resources and members, create resources and members of
their own, and create or update a `CloudscaleCluster` through the webhook. -/
inductive Fleet.Env [DecidableEq ι] (T : ι → Tenant) (ri : RegionInfo) (fl : Fleet ι) :
    Fleet ι → Prop where
  | remove (k : Kind) (id : String) : Fleet.Env T ri fl { fl with cloud := fl.cloud.remove k id }
  | removeMember (pool id : String) :
      Fleet.Env T ri fl { fl with cloud := fl.cloud.removeMember pool id }
  | insert {k : Kind} {i : Ident} : Foreign (slotsOf T) fl.cloud k i →
      Fleet.Env T ri fl { fl with cloud := fl.cloud.insert k i }
  | createMember {m : Member} : ForeignMember fl.cloud m →
      Fleet.Env T ri fl { fl with cloud := fl.cloud.createMember m }
  | store {i : ι} {c : CloudscaleCluster} : AdmittedRun ri (fl.specs i ++ [c]) → Stored (T i) c →
      Fleet.Env T ri fl { fl with specs := Function.update fl.specs i (fl.specs i ++ [c]) }

/-- The whole system. -/
def fleet [DecidableEq ι] (T : ι → Tenant) (ri : RegionInfo) :
    Runtime (Fleet ι) (Worker ι) Op Op.Reply Outcome where
  start fl v p fl' := fl' = fl ∧ fl.Starts T v p
  answer v fl op r fl' := Answers v.owner fl.cloud op r fl'.cloud ∧
    fl' = { fl with cloud := fl'.cloud }
  finish fl v out fl' := fl.persist v out = some fl'
  crash fl _ fl' := fl' = fl
  env fl fl' := fl.Env T ri fl'

/-- Before anything was stored or created. -/
structure Fleet.Initial (T : ι → Tenant) (fl : Fleet ι) : Prop where
  cloud : Pristine (slotsOf T) fl.cloud
  specs : ∀ i, fl.specs i = []
  statuses : ∀ i, fl.statuses i = []
  machineStatuses : ∀ i n, fl.machineStatuses i n = []

/-! ## Addresses that come back -/

section

variable [DecidableEq ι]

/-- The address of a released floating IP is handed out to a cluster. The create may
seem to fail. -/
inductive Reissues (o : ι) (w : World ι) : (op : Op) → op.Reply → World ι → Prop where
  | ok {req : Kind.floatingIP.Request} {r : Kind.floatingIP.Resource} : uuidOf r ≠ "" →
      w.Gone .floatingIP (uuidOf r) → identOf r = requestIdent req (uuidOf r) →
      Reissues o w (.create .floatingIP req) (.ok r) (w.create o .floatingIP (identOf r))
  | lost {req : Kind.floatingIP.Request} {u : String} {e : ApiError} : u ≠ "" →
      w.Gone .floatingIP u →
      Reissues o w (.create .floatingIP req) (.error e)
        (w.create o .floatingIP (requestIdent req u))

/-- It is handed out to someone else. -/
structure Fleet.Taken (T : ι → Tenant) (fl fl' : Fleet ι) (i : Ident) : Prop where
  nonempty : i.uuid ≠ ""
  gone : fl.cloud.Gone .floatingIP i.uuid
  tags : ∀ o t, slotsOf T o .floatingIP t → ¬ matchesTags t i.tags
  moved : fl' = { fl with cloud := fl.cloud.insert .floatingIP i }

/-- The system in which that happens. -/
def openFleet (T : ι → Tenant) (ri : RegionInfo) :
    Runtime (Fleet ι) (Worker ι) Op Op.Reply Outcome where
  start := (fleet T ri).start
  answer v fl op r fl' := (fleet T ri).answer v fl op r fl' ∨
    Reissues v.owner fl.cloud op r fl'.cloud ∧ fl' = { fl with cloud := fl'.cloud }
  finish := (fleet T ri).finish
  crash := (fleet T ri).crash
  env fl fl' := fl.Env T ri fl' ∨ ∃ i, fl.Taken T fl' i

/-- No address was handed out twice. -/
def IssuedOnce (w : World ι) : Prop := (w.issued.filter (·.1 = .floatingIP)).Nodup

omit [DecidableEq ι] in
theorem IssuedOnce.of_suffix {w w' : World ι} (h : IssuedOnce w') (hs : w.issued <:+ w'.issued) :
    IssuedOnce w := h.sublist (hs.sublist.filter _)

omit [DecidableEq ι] in
/-- Then the last one handed out was new. -/
theorem IssuedOnce.fresh {w : World ι} {i : Ident} (hne : i.uuid ≠ "")
    (h : IssuedOnce (w.insert .floatingIP i)) : w.Fresh .floatingIP i.uuid := by
  refine ⟨hne, fun hmem => ?_⟩
  simp only [IssuedOnce, World.insert, List.filter_cons, decide_true, if_true] at h
  exact (List.nodup_cons.mp h).1 (List.mem_filter.mpr ⟨hmem, by simp⟩)

omit [DecidableEq ι] in
theorem answers_issued {o : ι} {w w' : World ι} {op : Op} {r : op.Reply} (h : Answers o w op r w') :
    w.issued <:+ w'.issued := by
  cases h with
  | create_ok | create_lost => exact List.suffix_cons _ _
  | _ => exact List.suffix_rfl

theorem env_issued {T : ι → Tenant} {ri : RegionInfo} {fl fl' : Fleet ι} (h : fl.Env T ri fl') :
    fl.cloud.issued <:+ fl'.cloud.issued := by
  cases h with
  | insert => exact List.suffix_cons _ _
  | _ => exact List.suffix_rfl

theorem persist_cloud {fl fl' : Fleet ι} {v : Worker ι} {out : Outcome}
    (h : fl.persist v out = some fl') : fl'.cloud = fl.cloud := by
  cases v <;> cases out <;> simp only [Fleet.persist, Option.some.injEq, reduceCtorEq] at h
  all_goals
    subst h
    rfl

omit [DecidableEq ι] in
/-- A reissue that repeats no address is an ordinary answer. -/
theorem Reissues.answers {o : ι} {w w' : World ι} {op : Op} {r : op.Reply}
    (h : Reissues o w op r w') (honce : IssuedOnce w') : Answers o w op r w' := by
  have hparent (i : Ident) : w.ParentExists .floatingIP i := by rintro _ ⟨⟩
  cases h with
  | @ok req r hne _ hsame =>
      have hfresh := honce.fresh (i := identOf r) (identOf_uuid r ▸ hne)
      exact .create_ok (identOf_uuid r ▸ hfresh) hsame (hparent _)
  | lost hne _ => exact .create_lost (honce.fresh hne) (hparent _)

variable {T : ι → Tenant} {ri : RegionInfo} {fl : Fleet ι}
  {c c' : Runtime.Config (Fleet ι) (Worker ι) Op Op.Reply Outcome}

theorem openFleet_step (h : (openFleet T ri).Step c c') (honce : IssuedOnce c'.world.cloud) :
    (fleet T ri).Step c c' ∧ IssuedOnce c.world.cloud := by
  cases h with
  | start hslot hstart => exact ⟨.start hslot hstart, hstart.1 ▸ honce⟩
  | @call v op k r fl' hslot hans =>
      have hanswers : (fleet T ri).answer v c.world op r fl' := by
        rcases hans with hans | ⟨hans, heq⟩
        · exact hans
        · exact ⟨hans.answers honce, heq⟩
      exact ⟨.call hslot hanswers, honce.of_suffix (answers_issued hanswers.1)⟩
  | finish hslot hfin => exact ⟨.finish hslot hfin, persist_cloud hfin ▸ honce⟩
  | @crash v p fl' hslot hcrash =>
      have hsame : fl' = c.world := hcrash
      exact ⟨.crash hslot hcrash, hsame ▸ honce⟩
  | @env fl' henv =>
      have hclosed : c.world.Env T ri fl' := by
        rcases henv with henv | ⟨i, htaken⟩
        · exact henv
        -- taken by somebody else: fresh, as no UUID is issued twice up to `fl'`
        · have hfresh : c.world.cloud.Fresh .floatingIP i.uuid := by
            refine IssuedOnce.fresh htaken.nonempty ?_
            have hcloud : fl'.cloud = c.world.cloud.insert .floatingIP i := by rw [htaken.moved]
            rw [← hcloud]
            exact honce
          rw [htaken.moved]
          exact .insert ⟨hfresh, htaken.tags, by rintro _ ⟨⟩⟩
      exact ⟨.env hclosed, honce.of_suffix (env_issued hclosed)⟩

/-- A run that hands out no address twice is one without reuse. -/
theorem reachable_issuedOnce (h : (openFleet T ri).Reachable (.idle fl) c)
    (honce : IssuedOnce c.world.cloud) : (fleet T ri).Reachable (.idle fl) c := by
  induction h with
  | refl => exact .refl
  | tail _ hstep ih =>
      obtain ⟨hstep', honce'⟩ := openFleet_step hstep honce
      exact .tail (ih honce') hstep'

/-- And every run without reuse is one of the open system. -/
theorem reachable_open (h : (fleet T ri).Reachable (.idle fl) c) :
    (openFleet T ri).Reachable (.idle fl) c := by
  refine Relation.ReflTransGen.mono (fun a b hstep => ?_) _ _ h
  cases hstep with
  | start hslot hstart => exact .start hslot hstart
  | call hslot hans => exact .call hslot (.inl hans)
  | finish hslot hfin => exact .finish hslot hfin
  | crash hslot hcrash => exact .crash hslot hcrash
  | env henv => exact .env (.inl henv)

end

/-! ## Passes that can be run -/

section

variable [DecidableEq ι] {fl : Fleet ι}

/-- An execution on the cloud is one in the fleet. -/
theorem executes_fleet (T : ι → Tenant) (ri : RegionInfo) {v : Worker ι} {α : Type}
    {p : Program Op Op.Reply α} {w w' : World ι} {a : α}
    (h : p.Executes (Answers v.owner) w a w') (hw : fl.cloud = w) :
    p.Executes ((fleet T ri).answer v) fl a { fl with cloud := w' } := by
  induction h generalizing fl with
  | ret =>
      subst hw
      exact .ret
  | @call op k r a w w₁ w₂ hans _ ih =>
      subst hw
      have hstep : (fleet T ri).answer v fl op r { fl with cloud := w₁ } := ⟨hans, rfl⟩
      exact .call hstep (ih rfl)

variable {T : ι → Tenant} {ri : RegionInfo}

omit [DecidableEq ι] in
/-- A pass may start from a stored spec with any status that was persisted. -/
theorem starts_stored {i : ι} {stored : CloudscaleCluster} (hmem : stored ∈ fl.specs i)
    {metadata : ObjectMeta} (hname : metadata.name = (T i).name) {st : CloudscaleClusterStatus}
    (hst : Started (fl.statuses i) st) :
    fl.Starts T (.cluster i) (clusterJob (T i).cluster ⟨metadata, stored.spec, st⟩) :=
  .cluster hmem hname rfl hst

/-- A worker that nobody interferes with, until its result has been persisted. -/
theorem reachable_job {v : Worker ι} {p : Job} {out : Outcome} {w' : World ι} {fl' : Fleet ι}
    (hstart : fl.Starts T v p) (hex : p.Executes (Answers v.owner) fl.cloud out w')
    (hfin : { fl with cloud := w' }.persist v out = some fl') :
    (fleet T ri).Reachable (.idle fl) (.idle fl') :=
  (fleet T ri).reachable_finished ⟨rfl, hstart⟩ (executes_fleet T ri hex rfl) hfin

/-- The delete a job is about to issue. -/
def firstDelete : Job → Option (Kind × String)
  | .call (.delete k id) _ => some (k, id)
  | _ => none

theorem call_of_firstDelete {p : Job} {k : Kind} {id : String} (h : firstDelete p = some (k, id)) :
    ∃ next, p = .call (.delete k id) next := by
  unfold firstDelete at h
  split at h
  · next next =>
      obtain ⟨rfl, rfl⟩ := Prod.mk.inj (Option.some.inj h)
      exact ⟨next, rfl⟩
  · cases h

/-- A pass over a cluster on a simulated cloud. -/
def runPass (S : Scenario) (cluster : Cluster) (i : ι) (c : CloudscaleCluster) (w : World ι) :
    (Except GoError Result × CloudscaleCluster) × World ι :=
  (clusterWork cluster c).drive (S.simulate i) w

/-- The fleet after such a pass. -/
def Fleet.afterPass (fl : Fleet ι) (S : Scenario) (cluster : Cluster) (i : ι)
    (c : CloudscaleCluster) : Fleet ι where
  cloud := (runPass S cluster i c fl.cloud).2
  specs := fl.specs
  statuses := Function.update fl.statuses i
    ((runPass S cluster i c fl.cloud).1.2.status :: fl.statuses i)
  machineStatuses := fl.machineStatuses

theorem reachable_afterPass (S : Scenario) {i : ι} {c : CloudscaleCluster}
    (hstart : fl.Starts T (.cluster i) (clusterJob (T i).cluster c)) :
    (fleet T ri).Reachable (.idle fl) (.idle (fl.afterPass S (T i).cluster i c)) := by
  have hex : (clusterWork (T i).cluster c).Executes (Answers i) fl.cloud _ _ :=
    Program.executes_drive (fun _ _ _ => true) (fun w op _ => S.simulate_answers i w op) _ _
      (Program.served_of_forall (fun _ _ _ => rfl) _ _)
  exact reachable_job hstart (hex.bind_ret fun r => Outcome.cluster r.1 r.2) rfl

end

end Capcs.System
