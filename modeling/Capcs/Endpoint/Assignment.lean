import Capcs.Readiness.Calls

/-!
# Capcs.Endpoint.Assignment — where the floating IP goes

Without a load balancer the floating IP is assigned to a control plane server. The target is
the first machine of the list with a recorded server, whichever server the floating IP is on:
`updates_of_run` says what `ensureFloatingIPAssignment` does in terms of that machine, and
`no_update_iff` when it leaves the floating IP where it is. The Kubernetes client does not
promise an order, and `assignment_wanders` is two passes over the same machines that each move it.
-/

namespace Capcs.Endpoint

open Cloudscale Controller
open Readiness (CallEvent Trace)
open Interaction (history history_perform)
open Interaction.Contract

variable {cluster : Cluster} {c c' : CloudscaleCluster} {fip : FloatingIP} {tr : Trace}
  {machines : List CloudscaleMachine}

/-- The server that `getFloatingIPTarget` finds in a list of machines. -/
def firstServer (machines : List CloudscaleMachine) : Option String :=
  (machines.map (·.status.serverID)).find? (· ≠ "")

theorem find_server (machines : List CloudscaleMachine) :
    (machines.find? fun m => m.status.serverID ≠ "").map
      (·.status.serverID) = firstServer machines := by
  rw [firstServer, List.find?_map]
  rfl

theorem firstServer_ne {s : String} (h : firstServer machines = some s) : s ≠ "" := by
  simpa using List.find?_some h

/-- The reassignment a call makes. -/
def updateOf : CallEvent → Option (String × FloatingIPUpdateRequest)
  | ⟨.updateFloatingIP ip req, _⟩ => some (ip, req)
  | _ => none

/-- The reassignments in a trace. -/
def updates (tr : Trace) : List (String × FloatingIPUpdateRequest) := tr.filterMap updateOf

/-- The machines are listed as `machines`. -/
def Lists (machines : List CloudscaleMachine) : (op : Op) → op.Reply → Prop
  | .listMachines _ _ _, r => r = .ok machines
  | _, _ => True

/-- The reassignment that a list of machines calls for. -/
def wanted (c : CloudscaleCluster) (fip : FloatingIP) (machines : List CloudscaleMachine) :
    List (String × FloatingIPUpdateRequest) :=
  match firstServer machines with
  | none => []
  | some s => if fip.server = some s then [] else [(c.status.floatingIP, { server := s })]

theorem wanted_same {s : String} (hs : firstServer machines = some s)
    (hsame : fip.server = some s) :
    wanted c fip machines = [] := by
  simp only [wanted, hs, hsame, if_true]

theorem wanted_other {s : String} (hs : firstServer machines = some s)
    (hother : fip.server ≠ some s) :
    wanted c fip machines = [(c.status.floatingIP, { server := s })] := by
  simp only [wanted, hs, hother, if_false]

/-- The target without a load balancer. -/
theorem getFloatingIPTarget_spec (hlb : c.spec.controlPlaneLoadBalancer.isEnabled = false)
    (h : Trace) :
    (history (Lists machines)).wpc (fun out c' h' => c' = c ∧ updates h' = updates h ∧
      out = .ok ((firstServer machines).map fun s => { serverUUID := s }))
      (getFloatingIPTarget cluster) c h := by
  rw [getFloatingIPTarget, wpc_read_bind, wpc_ite, if_neg (by simp [hlb]), wpc_bind]
  refine history_perform fun r hr => ?_
  obtain rfl : r = .ok machines := hr
  simp only [after_ok, ← find_server]
  have hsame : updates (h ++ [⟨.listMachines c.metadata.ns cluster.name true, .ok machines⟩]) =
      updates h := by
    simp [updates, updateOf]
  split
  · next m hm => exact ⟨rfl, hsame, by rw [hm]; rfl⟩
  · next hm => exact ⟨rfl, hsame, by rw [hm]; rfl⟩

/-- What `ensureFloatingIPAssignment` asks for without a load balancer. -/
theorem ensureFloatingIPAssignment_spec (hlb : c.spec.controlPlaneLoadBalancer.isEnabled = false) :
    (history (Lists machines)).wpc (fun _ _ h' => updates h' = wanted c fip machines)
      (ensureFloatingIPAssignment cluster fip) c [] := by
  rw [ensureFloatingIPAssignment]
  refine wpc_seq (getFloatingIPTarget_spec hlb []) ?_
  rintro out c₁ h₁ ⟨rfl, hnone, rfl⟩
  have hnone : updates h₁ = [] := hnone
  cases hs : firstServer machines with
  | none =>
      rw [wanted, hs]
      exact hnone
  | some s =>
      have hne := firstServer_ne hs
      simp only [Option.map_some, after_ok]
      -- no call if the address is on that server already
      by_cases hsame : fip.server = some s
      · simp only [reassignment, hsame, ne_eq, not_true_eq_false, false_and, and_false, if_false]
        rw [wanted_same hs hsame]
        exact hnone
      · simp only [reassignment, hne, hsame, ne_eq, not_true_eq_false, false_and, if_false,
          not_false_eq_true, and_self, if_true]
        rw [wpc_read_bind, wpc_bind]
        refine history_perform fun r _ => ?_
        have hcall : updates (h₁ ++ [⟨.updateFloatingIP c₁.status.floatingIP { server := s }, r⟩]) =
            wanted c₁ fip machines := by
          rw [updates, List.filterMap_append, wanted_other hs hsame]
          show updates h₁ ++ _ = _
          rw [hnone]
          rfl
        simp only [after_ok]
        split
        · exact hcall
        · rw [wpc_ite]
          split <;> exact hcall

/-- The reassignments of a run. -/
theorem updates_of_run {out : Except GoError Unit}
    (hlb : c.spec.controlPlaneLoadBalancer.isEnabled = false)
    (hrun : ((ensureFloatingIPAssignment cluster fip).exec c).Runs tr (out, c'))
    (hlist : ∀ e ∈ tr, Lists machines e.op e.reply) : updates tr = wanted c fip machines :=
  Interaction.runs_of_wpc (ensureFloatingIPAssignment_spec hlb) hrun (by simpa using hlist)

/-- A floating IP that is on the server of one of the machines stays there exactly when no machine
with another server comes first. -/
theorem no_update_iff {out : Except GoError Unit} {m : CloudscaleMachine}
    (hlb : c.spec.controlPlaneLoadBalancer.isEnabled = false)
    (hrun : ((ensureFloatingIPAssignment cluster fip).exec c).Runs tr (out, c'))
    (hlist : ∀ e ∈ tr, Lists machines e.op e.reply) (hm : m ∈ machines)
    (hserver : m.status.serverID ≠ "") (hassigned : fip.server = some m.status.serverID) :
    updates tr = [] ↔ firstServer machines = some m.status.serverID := by
  rw [updates_of_run hlb hrun hlist]
  cases hs : firstServer machines with
  | none =>
      -- there is a machine with a server
      have hall := List.find?_eq_none.mp hs _ (List.mem_map_of_mem hm)
      exact absurd hserver (by simpa using hall)
  | some s =>
      by_cases heq : s = m.status.serverID
      · rw [wanted_same hs (hassigned.trans (by rw [heq]))]
        simp [heq]
      · have hother : fip.server ≠ some s := by
          rw [hassigned]
          simpa using Ne.symm heq
        rw [wanted_other hs hother]
        simp [heq]

/-! ## Two machines -/

/-- A cluster without a load balancer, with a floating IP. -/
def directCluster : CloudscaleCluster :=
  { metadata := { name := "c", ns := "default" }
    spec := { controlPlaneLoadBalancer := { enabled := some false }
              floatingIP := some { address := "192.0.2.9" } }
    status := { floatingIP := "192.0.2.9" } }

/-- A control plane machine with its server. -/
def onServer (name : String) : CloudscaleMachine :=
  { metadata := { name, ns := "default" }, status := { serverID := name } }

/-- The machines are listed in a given order, and every call succeeds. -/
def listing (machines : List CloudscaleMachine) : (op : Op) → op.Reply
  | .listMachines _ _ _ => .ok machines
  | .updateFloatingIP _ _ => .ok ()
  | .get _ _ | .list _ _ | .create _ _ | .delete _ _ | .listMembers _ | .createMember _ _
  | .updateMember _ _ _ | .deleteMember _ _ | .createInterface _ _ | .deleteInterface _ _ =>
    .error (.other "")
  | .getSecret _ _ => .error (.other "")

theorem lists_listing (machines : List CloudscaleMachine) (op : Op) :
    Lists machines op (listing machines op) := by
  cases op <;> trivial

/-- The calls of `ensureFloatingIPAssignment` for a floating IP on a server. -/
def assigning (machines : List CloudscaleMachine) (server : String) :
    Trace × (Except GoError Unit × CloudscaleCluster) :=
  (ensureFloatingIPAssignment { name := "c", ns := "default" }
    { ip := "192.0.2.9", server := some server }).record (listing machines) directCluster

theorem assigning_lists (machines : List CloudscaleMachine) (server : String) :
    ∀ e ∈ (assigning machines server).1, Lists machines e.op e.reply := by
  intro e he
  have heq := Interaction.Program.reply_of_mem_record he
  rw [heq]
  exact lists_listing machines e.op

/-- The floating IP is on the server of the first machine and stays there. -/
theorem no_update_first : updates (assigning [onServer "a", onServer "b"] "a").1 = [] :=
  (no_update_iff rfl ((ensureFloatingIPAssignment _ _).runs_record _ _) (assigning_lists _ _)
    (m := onServer "a") (by decide) (by decide) rfl).mpr (by decide)

/-- Two passes over the same two machines, listed in two orders. The floating IP is on one of
their servers before each pass, and each pass moves it to the other. -/
theorem assignment_wanders :
    [onServer "a", onServer "b"].Perm [onServer "b", onServer "a"] ∧
    updates (assigning [onServer "a", onServer "b"] "b").1 = [("192.0.2.9", { server := "a" })] ∧
    updates (assigning [onServer "b", onServer "a"] "a").1 = [("192.0.2.9", { server := "b" })] :=
  ⟨.swap .., by decide +kernel, by decide +kernel⟩

end Capcs.Endpoint
