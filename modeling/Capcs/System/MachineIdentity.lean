import Capcs.Retention.Machine
import Capcs.System.MachineLife
import Capcs.System.PassRule

/-!
# Capcs.System.MachineIdentity — the server of a machine

A machine names its server three times: by `spec.providerID`, by `status.serverID`, and by
the tag on the server. The controller looks at the last two only. So if the status is lost
and the server is gone as well, a pass takes the machine for a new one, creates another
server and writes its provider ID (`server_replaced`). As long as the tag lookup still
leads to the named server, that does not happen (`server_kept`).
-/

namespace Capcs.System

open Cloudscale Controller Retention
open Readiness (CallEvent Trace)
open Interaction (Proc history)
open Interaction.Contract

/-! ## One pass -/

/-- A create of a server. -/
def createsServer : CallEvent → Bool
  | ⟨.create .server _, _⟩ => true
  | _ => false

/-- Provider ID and server ID do not name different servers. -/
def Linked (m : CloudscaleMachine) : Prop :=
  ∀ p, m.spec.providerID = some p →
    m.status.serverID = "" ∨ p = "cloudscale://" ++ m.status.serverID

/-- The tag lookup for a machine that is down to its provider ID leads to the server of
that ID, if it leads to one. -/
def leadsBack (m : CloudscaleMachine) : (op : Op) → op.Reply → Prop
  | .list .server _, .ok servers => m.spec.providerID.isSome = true → m.status.serverID = "" →
      servers ≠ [] ∧ ∀ s, servers = [s] → m.spec.providerID = some ("cloudscale://" ++ s.uuid)
  | _, _ => True

/-- The contract of a pass over `m₀`. -/
abbrev identityCalls (m₀ : CloudscaleMachine) : Interaction.Contract Trace Op Op.Reply :=
  history fun op r => echoes op r ∧ leadsBack m₀ op r

variable {m₀ m : CloudscaleMachine} {h h' : Trace}

/-- A pass over `m₀` before its server step. -/
structure Unmoved (m₀ m : CloudscaleMachine) (h : Trace) : Prop where
  providerID : m.spec.providerID = m₀.spec.providerID
  serverID : m.status.serverID = m₀.status.serverID
  calls : ∀ e ∈ h, createsServer e = false

/-- A pass over `m₀` after it: an ID that was set is the same, and nothing was created
for it. -/
structure SameServer (m₀ m : CloudscaleMachine) (h : Trace) : Prop where
  kept : m₀.spec.providerID.isSome = true →
    m.spec.providerID = m₀.spec.providerID ∧ ∀ e ∈ h, createsServer e = false
  linked : Linked m
  known : m₀.status.serverID ≠ "" →
    ∀ p, m.spec.providerID = some p → p = "cloudscale://" ++ m₀.status.serverID

theorem Unmoved.sameServer (hu : Unmoved m₀ m h) (hl : Linked m₀) : SameServer m₀ m h where
  kept _ := ⟨hu.providerID, hu.calls⟩
  linked p hp := by
    rw [hu.serverID]
    exact hl p (hu.providerID ▸ hp)
  known hne p hp := by
    rcases hl p (hu.providerID ▸ hp) with hempty | hp
    · exact absurd hempty hne
    · exact hp

theorem Unmoved.setCondition (hu : Unmoved m₀ m h) (t : ConditionType) (status : ConditionStatus)
    (reason : Reason) (message : String) :
    Unmoved m₀ (setMachineCondition t status reason message m) h :=
  ⟨hu.providerID, hu.serverID, hu.calls⟩

theorem Unmoved.snoc (hu : Unmoved m₀ m h) {e : CallEvent} (he : createsServer e = false) :
    Unmoved m₀ m (h ++ [e]) := by
  refine ⟨hu.providerID, hu.serverID, ?_⟩
  intro e' he'
  rcases List.mem_append.mp he' with he' | he'
  · exact hu.calls e' he'
  · exact List.mem_singleton.mp he' ▸ he

/-- A step before the server step. -/
abbrev LeavesUnmoved {α : Type} (m₀ : CloudscaleMachine) (p : MachineM α) : Prop :=
  (identityCalls m₀).Preserves (Unmoved m₀) p

/-- A call that creates no server. -/
theorem stays_perform (op : Op) (hop : ∀ r, createsServer ⟨op, r⟩ = false) :
    LeavesUnmoved m₀ (Proc.perform op) := by
  intro m h _ hu
  exact Interaction.history_perform fun r _ => hu.snoc (hop r)

/-! ### The server group -/

theorem blind_unmoved (m₀ : CloudscaleMachine) : MachineBlind (Unmoved m₀) where
  condition _ _ _ _ _ _ _ hu := hu.setCondition _ _ _ _
  initialization _ _ _ hu := ⟨hu.providerID, hu.serverID, hu.calls⟩

theorem reconcileServerGroup_stays (cluster : CloudscaleCluster) :
    LeavesUnmoved m₀ (reconcileServerGroup cluster) :=
  reconcileServerGroup_preserves (blind_unmoved m₀)
    (fun _ _ _ hu => ⟨hu.providerID, hu.serverID, hu.calls⟩)
    (fun _ => stays_perform _ fun _ => rfl) (fun _ => stays_perform _ fun _ => rfl)
    fun _ => stays_perform _ fun _ => rfl

/-! ### The server -/

/-- Recording a server. -/
theorem adoptServer_same (server : Server)
    (hkept : m₀.spec.providerID.isSome = true →
      some ("cloudscale://" ++ server.uuid) = m₀.spec.providerID ∧ ∀ e ∈ h, createsServer e = false)
    (hempty : m₀.status.serverID = "") :
    (identityCalls m₀).wpc (fun _ => SameServer m₀) (adoptServer server) m h := by
  refine ⟨hkept, ?_, fun hne => absurd hempty hne⟩
  rintro p ⟨⟩
  exact .inr rfl

/-- A server is created only for a machine that has no provider ID. -/
theorem createServer_same (s : MachineScope) (hinv : (identityCalls m₀).inv h)
    (hnew : m₀.spec.providerID = none) (hu : Unmoved m₀ m h) (hempty : m₀.status.serverID = "") :
    (identityCalls m₀).wpc (fun _ => SameServer m₀) (createServer s) m h := by
  -- as long as no server is adopted, nothing refers to one
  have hsame {h' : Trace} (hp : m.spec.providerID = none) : SameServer m₀ m h' := by
    refine ⟨fun hsome => ?_, fun p hsome => ?_, fun hne => absurd hempty hne⟩
    · rw [hnew] at hsome
      cases hsome
    · rw [hp] at hsome
      cases hsome
  have hnone := hu.providerID.trans hnew
  rw [createServer]
  refine wpc_seq (wpc_wrapped ((getBootstrapData_reads s).wpc hinv) fun _ _ _ => id) ?_
  rintro out m h₁ ⟨rfl, -⟩
  cases out with
  | error err => exact hsame hnone
  | ok data =>
      rw [after_ok, wpc_read_bind]
      split
      · exact hsame hnone
      · refine wpc_seq (createResource_grows (k := .server)) ?_
        rintro out m h₂ ⟨rfl, -⟩
        rcases out with err | result | server
        · exact hsame hnone
        · exact hsame hnone
        · refine adoptServer_same server (fun hsome => ?_) hempty
          rw [hnew] at hsome
          cases hsome

theorem findServer_same (s : MachineScope) (hinv : (identityCalls m₀).inv h) (hl : Linked m₀)
    (hu : Unmoved m₀ m h) (hempty : m₀.status.serverID = "") :
    (identityCalls m₀).wpc (fun _ => SameServer m₀) (findServer s) m h := by
  rw [findServer, wpc_read_bind, wpc_bind]
  refine Interaction.history_perform fun r hr => ?_
  have hu₁ := hu.snoc
    (show createsServer ⟨.list .server (machineLookupTag s m), r⟩ = false from rfl)
  rcases r with err | _ | ⟨server, _ | ⟨_, _⟩⟩
  · exact hu₁.sameServer hl
  · cases hp : m₀.spec.providerID with
    | none => exact createServer_same s (Interaction.history_snoc hinv hr) hp hu₁ hempty
    | some p => exact absurd rfl (hr.2 (by simp [hp]) hempty).1
  · refine adoptServer_same server (fun hsome => ?_) hempty
    exact ⟨((hr.2 hsome hempty).2 server rfl).symm, hu₁.calls⟩
  · exact hu₁.sameServer hl

theorem serverBody_same (s : MachineScope) (hinv : (identityCalls m₀).inv h) (hl : Linked m₀)
    (hu : Unmoved m₀ m h) : (identityCalls m₀).wpc (fun _ => SameServer m₀) (serverBody s) m h := by
  rw [serverBody, wpc_read_bind, wpc_ite]
  split
  · next hempty => exact findServer_same s hinv hl hu (hu.serverID ▸ hempty)
  · next hne =>
    rw [wpc_bind]
    refine Interaction.history_perform fun r hr => ?_
    have hu₁ := hu.snoc (show createsServer ⟨.get .server m.status.serverID, r⟩ = false from rfl)
    cases r with
    | ok server =>
        -- the server that was asked for
        have huuid : server.uuid = m₀.status.serverID := (hr.1 : server.uuid = _).trans hu.serverID
        refine ⟨fun hsome => ⟨?_, hu₁.calls⟩, ?_, ?_⟩
        · obtain ⟨p, hp⟩ := Option.isSome_iff_exists.mp hsome
          rcases hl p hp with hempty | hp'
          · exact absurd (hu.serverID.trans hempty) hne
          · rw [hp, hp', ← huuid]
            rfl
        · rintro p ⟨⟩
          refine .inr ?_
          rw [huuid, ← hu.serverID]
          rfl
        · rintro - p ⟨⟩
          rw [huuid]
    | error err =>
        simp only [after_ok, wpc_ite]
        split
        · exact (hu₁.setCondition _ _ _ _).sameServer hl
        · exact hu₁.sameServer hl

theorem SameServer.congr {m' : CloudscaleMachine} (hs : SameServer m₀ m h)
    (hspec : m'.spec.providerID = m.spec.providerID)
    (hstatus : m'.status.serverID = m.status.serverID) : SameServer m₀ m' h := by
  refine ⟨?_, ?_, ?_⟩
  · rw [hspec]
    exact hs.kept
  · rw [Linked, hspec, hstatus]
    exact hs.linked
  · rw [hspec]
    exact hs.known

theorem blind_sameServer (m₀ : CloudscaleMachine) : MachineBlind (SameServer m₀) where
  condition _ _ _ _ _ _ _ hs := hs.congr rfl rfl
  initialization _ _ _ hs := hs.congr rfl rfl

theorem machineReconcileNormal_same (s : MachineScope) (hinv : (identityCalls m₀).inv h)
    (hl : Linked m₀) (hu : Unmoved m₀ m h) :
    (identityCalls m₀).wpc (fun _ => SameServer m₀) (machineReconcileNormal s) m h := by
  rw [machineReconcileNormal, wpc_deferred]
  refine wpc_imp (Q := fun _ => SameServer m₀) ?_
    fun _ => (blind_sameServer m₀).ready
  rw [wpc_ite]
  split
  · exact (hu.setCondition _ _ _ _).sameServer hl
  rw [wpc_read_bind, wpc_ite]
  split
  · exact machineServerStep_wpc (blind_sameServer m₀) (serverBody_same s hinv hl hu)
  refine wpc_seq_inv hinv (reconcileServerGroup_stays _ m h hinv hu) ?_
  intro out m₁ h₁ hinv₁ hu₁
  cases out with
  | error err => exact hu₁.sameServer hl
  | ok result =>
      rw [after_ok, wpc_ite]
      split
      · exact hu₁.sameServer hl
      · exact machineServerStep_wpc (blind_sameServer m₀) (serverBody_same s hinv₁ hl hu₁)

/-- A machine whose server ID is cleared. -/
theorem Unmoved.cleared (hu : Unmoved m₀ m h) (hl : Linked m₀) :
    SameServer m₀ (setServerID "" m) h :=
  ⟨(hu.sameServer hl).kept, fun _ _ => .inl rfl, (hu.sameServer hl).known⟩

theorem deleteServer_same (hl : Linked m₀) (hu : Unmoved m₀ m h) :
    (identityCalls m₀).wpc (fun _ => SameServer m₀) deleteServer m h := by
  rw [deleteServer, wpc_deferred]
  refine wpc_imp (Q := fun _ => SameServer m₀) ?_ fun out m h hs => ?_
  · rw [wpc_read_bind, wpc_ite]
    split
    · exact hu.sameServer hl
    rw [wpc_bind]
    refine Interaction.history_perform fun r _ => ?_
    have hu₁ := hu.snoc (show createsServer ⟨.delete .server m.status.serverID, r⟩ = false from rfl)
    cases r with
    | ok _ => exact hu₁.cleared hl
    | error err =>
        simp only [after_ok, wpc_ite]
        split
        · exact hu₁.cleared hl
        · exact hu₁.sameServer hl
  · cases out <;> exact hs.congr rfl rfl

/-- A teardown creates nothing and leaves the provider ID. -/
theorem machineReconcileDelete_same (hl : Linked m₀) (hu : Unmoved m₀ m h) :
    (identityCalls m₀).wpc (fun _ => SameServer m₀) machineReconcileDelete m h := by
  rw [machineReconcileDelete, wpc_update_bind]
  refine wpc_seq (wpc_wrapped (deleteServer_same hl (hu.setCondition _ _ _ _)) fun _ _ _ => id) ?_
  intro out m h hs
  cases out with
  | error err => exact hs
  | ok _ =>
      show SameServer m₀ { setMachineCondition .ready .isFalse .deleting
        "Machine infrastructure has been deleted" (deleteServerGroup m) with metadata := _ } h
      rw [deleteServerGroup]
      split
      · exact hs.congr rfl rfl
      · exact hs.congr rfl rfl

/-! ## Runs -/

/-- A pass over a version of the machine, with what it has in memory at the end. -/
def MachinePassOver (m : CloudscaleMachine) (tr : Trace) (after : CloudscaleMachine) : Prop :=
  ∃ s out, (machineWork s (unpausedMachine m)).Runs tr (out, after) ∧
    ∀ e ∈ tr, echoes e.op e.reply

/-- In a pass over `m` the tag lookup leads back to the server of the provider ID. -/
def LeadsBack (m : CloudscaleMachine) (tr : Trace) : Prop := ∀ e ∈ tr, leadsBack m e.op e.reply

theorem sameServer_of_pass {tr : Trace} {after : CloudscaleMachine} (hl : Linked m)
    (hpass : MachinePassOver m tr after) (hback : LeadsBack m tr) : SameServer m after tr := by
  obtain ⟨s, out, hrun, hgood⟩ := hpass
  have hinv : (identityCalls m).inv [] := fun e he => absurd he (by simp)
  have hgood : ∀ e ∈ [] ++ tr, echoes e.op e.reply ∧ leadsBack m e.op e.reply :=
    fun e he => ⟨hgood e he, hback e he⟩
  rw [machineWork] at hrun
  split at hrun
  · refine Interaction.runs_of_wpc (h := []) (machineReconcileDelete_same hl ?_) hrun hgood
    exact ⟨rfl, rfl, by simp⟩
  · refine Interaction.runs_of_wpc (h := []) (machineReconcileNormal_same s hinv hl ?_) hrun hgood
    exact ⟨rfl, rfl, by simp⟩

/-- The stored machine as a pass may find it at its end: its status may be lost meanwhile. -/
structure Drifted (m stored : CloudscaleMachine) : Prop where
  providerID : stored.spec.providerID = m.spec.providerID
  serverID : stored.status.serverID = m.status.serverID ∨ stored.status.serverID = ""

/-- What a patch makes of it. Spec and status go out apart from each other, and either may
be refused. -/
structure MachinePatched (after stored new : CloudscaleMachine) : Prop where
  providerID : new.spec.providerID = stored.spec.providerID ∨
    new.spec.providerID = after.spec.providerID
  serverID : new.status.serverID = stored.status.serverID ∨
    new.status.serverID = after.status.serverID

/-- The versions of a machine in runs whose passes meet a condition. Its server may come and
go as it likes: replies are not tied to each other. -/
inductive MachineVersion (ok : CloudscaleMachine → Trace → Prop) : CloudscaleMachine → Prop where
  | new {m : CloudscaleMachine} : m.status.serverID = "" → MachineVersion ok m
  | edit {m new : CloudscaleMachine} : MachineVersion ok m → Drifted m new → MachineVersion ok new
  | pass {m after stored new : CloudscaleMachine} {tr : Trace} : MachineVersion ok m →
      MachinePassOver m tr after → ok m tr → Drifted m stored → MachinePatched after stored new →
      MachineVersion ok new

theorem Linked.drifted {stored : CloudscaleMachine} (hl : Linked m) (hd : Drifted m stored) :
    Linked stored := by
  intro p hp
  rcases hd.serverID with hsame | hlost
  · rw [hsame]
    exact hl p (hd.providerID ▸ hp)
  · exact .inl hlost

theorem Linked.patched {tr : Trace} {after stored new : CloudscaleMachine} (hl : Linked m)
    (hs : SameServer m after tr) (hd : Drifted m stored) (hp : MachinePatched after stored new) :
    Linked new := by
  intro p hprov
  rcases hp.providerID with hold | hafter
  · rw [hold] at hprov
    rcases hp.serverID with hsame | hnew
    · rw [hsame]
      exact hl.drifted hd p hprov
    · -- the pass has kept this provider ID
      have hm : m.spec.providerID = some p := hd.providerID ▸ hprov
      rw [hnew]
      exact hs.linked p ((hs.kept (by simp [hm])).1.trans hm)
  · rw [hafter] at hprov
    rcases hp.serverID with hsame | hnew
    · rw [hsame]
      rcases hd.serverID with hstored | hlost
      · by_cases hempty : m.status.serverID = ""
        · exact .inl (hstored.trans hempty)
        · rw [hstored]
          exact .inr (hs.known hempty p hprov)
      · exact .inl hlost
    · rw [hnew]
      exact hs.linked p hprov

theorem MachineVersion.linked (h : MachineVersion LeadsBack m) : Linked m := by
  induction h with
  | new hempty => exact fun _ _ => .inl hempty
  | edit _ hd ih => exact ih.drifted hd
  | pass _ hpass hok hd hp ih => exact ih.patched (sameServer_of_pass ih hpass hok) hd hp

/-- If in every pass the tag lookup for a machine without a server ID leads back to the
server of its provider ID, no pass over a machine with a provider ID creates a server, or
writes another provider ID. -/
theorem server_kept {tr : Trace} {after : CloudscaleMachine} {p : String}
    (hm : MachineVersion LeadsBack m) (hpass : MachinePassOver m tr after) (hback : LeadsBack m tr)
    (hp : m.spec.providerID = some p) :
    (∀ e ∈ tr, createsServer e = false) ∧ after.spec.providerID = some p := by
  obtain ⟨hkept, hcalls⟩ := (sameServer_of_pass hm.linked hpass hback).kept (by simp [hp])
  exact ⟨hcalls, hkept.trans hp⟩

/-! ## A lost status -/

/-- A project with these servers of the machine, where another one can be created. -/
def serverReply (servers : List Server) (next : String) : (op : Op) → op.Reply
  | .list .server _ => .ok servers
  | .create .server _ => .ok { uuid := next, status := "running" }
  | .getSecret _ _ => .ok [("value", "data")]
  | op => emptyReply op

theorem serverReply_echoes (servers : List Server) (next : String) (op : Op) :
    echoes op (serverReply servers next op) := by
  cases op with
  | list k _ => cases k <;> trivial
  | create k _ => cases k <;> trivial
  | _ => trivial

/-- A recorded pass over a machine. -/
def machinePass (m : CloudscaleMachine) (servers : List Server) (next : String) :
    Trace × Except GoError Result × CloudscaleMachine :=
  (machineWork scope (unpausedMachine m)).record (serverReply servers next)

theorem machinePass_over (m : CloudscaleMachine) (servers : List Server) (next : String) :
    MachinePassOver m (machinePass m servers next).1 (machinePass m servers next).2.2 := by
  refine ⟨scope, _, Interaction.Program.runs_record _ _, ?_⟩
  intro e he
  rw [Interaction.Program.reply_of_mem_record he]
  exact serverReply_echoes servers next e.op

/-- The machine after a first pass, restored without its status. -/
def movedMachine : CloudscaleMachine :=
  { (machinePass newMachine.obj [] "s1").2.2 with status := {} }

theorem movedMachine_version {ok : CloudscaleMachine → Trace → Prop}
    (hok : ok newMachine.obj (machinePass newMachine.obj [] "s1").1) :
    MachineVersion ok movedMachine := by
  have hfirst : MachineVersion ok (machinePass newMachine.obj [] "s1").2.2 :=
    (MachineVersion.new rfl).pass (machinePass_over newMachine.obj [] "s1") hok ⟨rfl, .inl rfl⟩
      ⟨.inr rfl, .inr rfl⟩
  exact hfirst.edit ⟨rfl, .inr rfl⟩

/-- The server is still there: the second pass finds it again. -/
theorem server_kept_moved :
    (∀ e ∈ (machinePass movedMachine [{ uuid := "s1" }] "s2").1, createsServer e = false) ∧
      (machinePass movedMachine [{ uuid := "s1" }] "s2").2.2.spec.providerID =
        some "cloudscale://s1" := by
  have hprov : movedMachine.spec.providerID = some "cloudscale://s1" := by decide +kernel
  refine server_kept (movedMachine_version ?_) (machinePass_over movedMachine _ _) ?_ hprov
  · intro e he
    rw [Interaction.Program.reply_of_mem_record he]
    cases e.op with
    | list k _ =>
        cases k with
        | server => exact fun hsome => absurd hsome (by decide)
        | _ => trivial
    | _ => trivial
  · intro e he
    rw [Interaction.Program.reply_of_mem_record he]
    cases e.op with
    | list k _ =>
        cases k with
        | server =>
            rintro - -
            refine ⟨by simp, ?_⟩
            rintro s ⟨⟩
            exact hprov
        | _ => trivial
    | _ => trivial

/-- The server is gone as well: the second pass creates another one, and replaces the
provider ID. -/
theorem server_replaced :
    MachineVersion (fun _ _ => True) movedMachine ∧
      movedMachine.spec.providerID = some "cloudscale://s1" ∧
      MachinePassOver movedMachine (machinePass movedMachine [] "s2").1
        (machinePass movedMachine [] "s2").2.2 ∧
      (∃ e ∈ (machinePass movedMachine [] "s2").1, createsServer e = true) ∧
      (machinePass movedMachine [] "s2").2.2.spec.providerID = some "cloudscale://s2" := by
  refine ⟨movedMachine_version trivial, by decide +kernel, machinePass_over movedMachine _ _, ?_,
    by decide +kernel⟩
  have hany : (machinePass movedMachine [] "s2").1.any createsServer = true := by decide +kernel
  exact List.any_eq_true.mp hany

end Capcs.System
