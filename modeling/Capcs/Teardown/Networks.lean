import Capcs.Teardown.Routers

/-!
# Capcs.Teardown.Networks — what a teardown of networks records

`deleteNetwork` goes through the network entries and collects those that remain, but it writes
them to the status at its end only. A `Delete` that is refused because of load balancer pool
members ends the step at once: `deleteNetworks_spec` splits its runs into full sweeps over the
entries and those that stop.

`networks_recorded_iff` says when the status is right afterwards, and `stopped_teardown` is a run
after which it is not: what was deleted before the refusal stays recorded.
-/

namespace Capcs.Teardown

open Cloudscale Controller
open Readiness (CallEvent Trace)
open Interaction (Sweep Swept history history_perform)
open Interaction.Contract

variable {good : (op : Op) → op.Reply → Prop} {c c' : CloudscaleCluster} {h t t' tr : Trace}
  {entries rest left : List NetworkStatus} {errs : List GoError} {ns : NetworkStatus}
  {o : Option NetworkStatus} {es : List GoError}

/-! ## The loop -/

/-- A delete that is refused for the pool members in the network. -/
def refused : Except ApiError Unit → Bool
  | .ok _ => false
  | .error err => isLBPoolMembersError err

/-- The network of an entry is to be deleted. -/
def due (ns : NetworkStatus) : Bool := ns.managed ∧ ns.networkID ≠ ""

/-- What can happen to an entry, short of a refusal. -/
inductive NetFate : NetworkStatus → Trace → Option NetworkStatus → List GoError → Prop where
  | foreign {ns : NetworkStatus} : ns.managed = false → NetFate ns [] (some ns) []
  | unrecorded {ns : NetworkStatus} : ns.managed = true → ns.networkID = "" → NetFate ns [] none []
  | deleted {ns : NetworkStatus} {reply : Except ApiError Unit} : due ns = true →
      refused reply = false → gone reply = true →
      NetFate ns [⟨.delete .network ns.networkID, reply⟩] none []
  | failed {ns : NetworkStatus} {err : ApiError} {e : GoError} : due ns = true →
      refused (.error err) = false → gone (.error err) = false →
      NetFate ns [⟨.delete .network ns.networkID, .error err⟩] (some ns) [e]

theorem NetFate.same {x : NetworkStatus} (hf : NetFate ns t (some x) errs) : x = ns := by
  cases hf <;> rfl

/-- The loop stopped at an entry. -/
structure StoppedAt (entries : List NetworkStatus) (t : Trace) : Prop where
  split : ∃ before ns rest t₁ left errs reply, entries = before ++ ns :: rest ∧
    Sweep NetFate before t₁ left errs ∧ due ns = true ∧ refused reply = true ∧
    t = t₁ ++ [⟨.delete .network ns.networkID, reply⟩]

theorem StoppedAt.cons (hf : NetFate ns t o es) (hs : StoppedAt rest t') :
    StoppedAt (ns :: rest) (t ++ t') := by
  obtain ⟨before, n, after, t₁, left, errs, reply, rfl, hsweep, hdue, hrefused, rfl⟩ := hs.split
  exact ⟨⟨ns :: before, n, after, t ++ t₁, _, _, reply, rfl, .cons hf hsweep, hdue, hrefused,
    by simp⟩⟩

/-- The loop of `deleteNetwork`: it goes through all entries, or stops at one. -/
theorem deleteNetworks_spec (entries : List NetworkStatus) :
    (history good).wpc
      (Swept NetFate (fun entries t err => err = errNetworkNotReady ∧ StoppedAt entries t) entries
        c h) (deleteNetworks entries) c h := by
  induction entries generalizing h with
  | nil => exact ⟨rfl, [], by simp, .inl ⟨[], [], rfl, .nil⟩⟩
  | cons ns rest ih =>
      have hdrop {t : Trace} (hf : NetFate ns t none []) :=
        Swept.drop (h := h) (fun _ _ hs => ⟨hs.1, hs.2.cons hf⟩) (fun _ => ih) hf
      have hkeep {h₁ t : Trace} {es : List GoError}
          {k : List NetworkStatus × List GoError → ClusterM (List NetworkStatus × List GoError)}
          (heq : h₁ = h ++ t) (hf : NetFate ns t (some ns) es) :=
        Swept.keep (k := k) (fun _ _ hs => ⟨hs.1, hs.2.cons hf⟩) (fun _ => ih) heq hf
      rw [deleteNetworks]
      simp only [wpc_ite]
      split
      · next hm =>
        have hf : NetFate ns [] (some ns) [] := .foreign (by simpa using hm)
        exact hkeep (List.append_nil h).symm hf fun _ _ => rfl
      · next hm =>
        have hm : ns.managed = true := by simpa using hm
        split
        · next hid => simpa using hdrop (.unrecorded hm hid)
        · next hid =>
          have hdue : due ns = true := by simp [due, hm, hid]
          rw [wpc_bind]
          refine history_perform fun reply _ => ?_
          cases reply with
          | ok _ => exact hdrop (.deleted hdue rfl rfl)
          | error err =>
              simp only [after_ok, wpc_ite]
              split
              · next hpool =>
                -- refused for pool members: the loop returns at once
                exact ⟨rfl, [⟨.delete .network ns.networkID, .error err⟩], rfl, .inr ⟨_, rfl,
                  rfl, ⟨[], ns, rest, [], [], [], .error err, rfl, .nil, hdue, hpool, rfl⟩⟩⟩
              · next hpool =>
                have hpool : refused (.error err) = false := by simpa [refused] using hpool
                split
                · next hnf => exact hdrop (.deleted hdue hpool hnf)
                · next hnf =>
                  exact hkeep rfl (.failed hdue hpool (by simpa [gone] using hnf)) fun _ _ => rfl

/-- `deleteNetwork`: the entries that are left are written, or nothing is. -/
theorem deleteNetwork_spec :
    (history good).wpc (fun out c' h' => ∃ t, h' = h ++ t ∧
      ((∃ errs, (out = .ok () ↔ errs = []) ∧
          Sweep NetFate c.status.networks t c'.status.networks errs) ∨
        (out = .error errNetworkNotReady ∧ c'.status.networks = c.status.networks ∧
          StoppedAt c.status.networks t))) deleteNetwork c h := by
  rw [deleteNetwork, wpc_deferred, wpc_read_bind]
  refine wpc_seq (deleteNetworks_spec c.status.networks) ?_
  rintro out c₁ h₁ ⟨rfl, t, rfl, ⟨left, errs, rfl, hs⟩ | ⟨_, rfl, rfl, hs⟩⟩
  · simp only [after_ok]
    rw [wpc_update_bind]
    refine wpc_imp (returnJoined_spec errs) ?_
    rintro out c₂ h₂ ⟨rfl, rfl, hout⟩
    refine ⟨t, rfl, .inl ⟨errs, hout, ?_⟩⟩
    cases out <;> exact hs
  · exact ⟨t, rfl, .inr ⟨rfl, rfl, hs⟩⟩

/-! ## The answers the entries got -/

/-- The answer to the delete of the network of an entry. -/
def answerOf (ns : NetworkStatus) : CallEvent → Option (Except ApiError Unit)
  | ⟨.delete .network id, reply⟩ => if id = ns.networkID then some reply else none
  | _ => none

/-- The entries, each with the answer to the delete of its network; `none` if there was no call. -/
def answers : List NetworkStatus → Trace → List (NetworkStatus × Option (Except ApiError Unit))
  | [], _ => []
  | ns :: rest, tr =>
    if due ns then (ns, tr.head?.bind (answerOf ns)) :: answers rest tr.tail
    else (ns, none) :: answers rest tr

/-- An entry that stays: it is pre-existing, or has a network that was not deleted. -/
def stays (x : NetworkStatus × Option (Except ApiError Unit)) : Bool :=
  !x.1.managed || (x.1.networkID ≠ "" && !x.2.any gone)

theorem answers_ask (hdue : due ns = true) (reply : Except ApiError Unit) :
    answers (ns :: rest) (⟨.delete .network ns.networkID, reply⟩ :: t) =
      (ns, some reply) :: answers rest t := by
  rw [answers, if_pos hdue]
  simp [answerOf]

theorem answers_skip (hdue : due ns = false) :
    answers (ns :: rest) t = (ns, none) :: answers rest t := by
  rw [answers, if_neg (by simp [hdue])]

theorem answers_map_fst (entries : List NetworkStatus) (t : Trace) :
    (answers entries t).map (·.1) = entries := by
  fun_induction answers entries t <;> simp_all

theorem NetFate.answers (hf : NetFate ns t o es) :
    ∃ a, (∀ rest t', Teardown.answers (ns :: rest) (t ++ t') =
      (ns, a) :: Teardown.answers rest t') ∧ a.any refused = false ∧
      o = if stays (ns, a) then some ns else none := by
  cases hf with
  | foreign hm =>
      exact ⟨none, fun _ _ => answers_skip (by simp [due, hm]), rfl, by simp [stays, hm]⟩
  | unrecorded hm hid =>
      exact ⟨none, fun _ _ => answers_skip (by simp [due, hid]), rfl, by simp [stays, hm, hid]⟩
  | @deleted reply hdue hrefused hgone =>
      have hm : ns.managed = true := by simp_all [due]
      exact ⟨some reply, fun _ _ => answers_ask hdue reply, hrefused, by simp [stays, hm, hgone]⟩
  | @failed err _ hdue hrefused hgone =>
      have hid : ns.networkID ≠ "" := by simp_all [due]
      exact ⟨some (.error err), fun _ _ => answers_ask hdue _,
        hrefused, by simp [stays, hid, hgone]⟩

/-- A sweep leaves the entries that stay. -/
theorem sweep_answers (hs : Sweep NetFate entries t left errs) (rest : List NetworkStatus)
    (t' : Trace) : ∃ as, answers (entries ++ rest) (t ++ t') = as ++ answers rest t' ∧
      (∀ x ∈ as, x.2.any refused = false) ∧ left = (as.filter stays).map (·.1) := by
  induction hs with
  | nil => exact ⟨[], rfl, by simp, rfl⟩
  | @cons ns entries left o t t₁ es errs hf _ ih =>
      obtain ⟨as, has, hrefused, rfl⟩ := ih
      obtain ⟨a, hans, ha, rfl⟩ := hf.answers
      refine ⟨(ns, a) :: as, ?_, ?_, ?_⟩
      · rw [List.append_assoc, List.cons_append, hans, has, List.cons_append]
      · intro x hx
        rcases List.mem_cons.mp hx with rfl | hx
        · exact ha
        · exact hrefused x hx
      · rw [List.filter_cons]
        split <;> simp

theorem NetFate.errs_eq_nil_iff (hf : NetFate ns t o es) :
    es = [] ↔ ∀ x ∈ o, x.managed = false := by
  cases hf with
  | foreign hm => simpa using hm
  | unrecorded => simp
  | deleted => simp
  | failed hdue =>
      have hm : ns.managed = true := by simp_all [due]
      simp [hm]

/-! ## What is recorded -/

/-- The status is right after a teardown: it has the entries that stay, in their order, and the
step returned no error exactly when no managed entry is left. -/
def RecordsLeft (c : CloudscaleCluster) (tr : Trace) (out : Except GoError Unit)
    (c' : CloudscaleCluster) : Prop :=
  c'.status.networks = ((answers c.status.networks tr).filter stays).map (·.1) ∧
    (out = .ok () ↔ ∀ ns ∈ c'.status.networks, ns.managed = false)

/-- No delete was refused for its pool members, or no entry has to go. -/
def Orderly (c : CloudscaleCluster) (tr : Trace) : Prop :=
  (∀ x ∈ answers c.status.networks tr, x.2.any refused = false) ∨
    ∀ x ∈ answers c.status.networks tr, stays x = true

theorem StoppedAt.not_unrefused (hs : StoppedAt entries t) :
    ∃ x ∈ answers entries t, x.1.managed = true ∧ x.2.any refused = true := by
  obtain ⟨before, ns, rest, t₁, left, errs, reply, rfl, hsweep, hdue, hrefused, rfl⟩ := hs.split
  obtain ⟨as, has, -⟩ := sweep_answers hsweep (ns :: rest) [⟨.delete .network ns.networkID, reply⟩]
  have hm : ns.managed = true := by simp_all [due]
  refine ⟨(ns, some reply), ?_, hm, hrefused⟩
  rw [has, answers_ask hdue]
  simp

/-- The status is right after `deleteNetwork` exactly when no delete was refused for its pool
members, or no entry had to go. -/
theorem networks_recorded_iff {out : Except GoError Unit}
    (hrun : (deleteNetwork.exec c).Runs tr (out, c')) : RecordsLeft c tr out c' ↔ Orderly c tr := by
  have hspec : (history fun _ _ => True).wpc _ deleteNetwork c [] := deleteNetwork_spec
  obtain ⟨t, ht, hend⟩ := Interaction.runs_of_wpc hspec hrun fun _ _ => trivial
  obtain rfl : tr = t := by simpa using ht
  rcases hend with ⟨errs, hout, hs⟩ | ⟨rfl, hsame, hs⟩
  · -- all entries were gone through
    obtain ⟨as, has, hrefused, hleft⟩ := sweep_answers hs [] []
    rw [List.append_nil, List.append_nil, answers, List.append_nil] at has
    refine iff_of_true ⟨?_, ?_⟩ (.inl ?_)
    · rw [has, hleft]
    · rw [hout]
      exact hs.errs_eq_nil_iff fun _ _ _ _ hf => hf.errs_eq_nil_iff
    · rw [has]
      exact hrefused
  · -- the status is as it was, which is right if every entry stays
    obtain ⟨x, hx, hm, hrefused⟩ := hs.not_unrefused
    have hentries := answers_map_fst c.status.networks tr
    rw [RecordsLeft, Orderly]
    constructor
    · rintro ⟨hnets, -⟩
      right
      rw [← List.filter_eq_self]
      refine List.filter_sublist.eq_of_length ?_
      rw [hsame] at hnets
      have hlen := congrArg List.length (hnets.symm.trans hentries.symm)
      simpa using hlen
    · rintro (hno | hall)
      · rw [hno x hx] at hrefused
        cases hrefused
      · rw [List.filter_eq_self.mpr hall, hentries]
        refine ⟨hsame, iff_of_false (by simp [errNetworkNotReady]) ?_⟩
        intro hnone
        have hmem : x.1 ∈ c'.status.networks := by
          rw [hsame, ← hentries]
          exact List.mem_map_of_mem hx
        rw [hnone _ hmem] at hm
        cases hm

/-! ## Two networks -/

/-- A cluster with two networks of its own. -/
def twoNetworks : CloudscaleCluster :=
  { metadata := { name := "c", ns := "default" }
    status := { networks := [{ name := "a", networkID := "1", managed := true },
                  { name := "b", networkID := "2", managed := true }] } }

/-- Only the first network can be deleted. -/
def firstOnly (err : ApiError) : (op : Op) → op.Reply
  | .delete _ id => if id = "1" then .ok () else .error err
  | .get _ _ | .list _ _ | .create _ _ | .listMembers _ | .createMember _ _ | .updateMember _ _ _
  | .deleteMember _ _ | .createInterface _ _ | .deleteInterface _ _ | .updateFloatingIP _ _ =>
    .error err
  | .listMachines _ _ _ | .getSecret _ _ => .error (.other "")

/-- The teardown of these networks. -/
def halfTeardown (err : ApiError) : Trace × (Except GoError Unit × CloudscaleCluster) :=
  deleteNetwork.record (firstOnly err) twoNetworks

/-- An outage, after which the status is right. -/
def outage : ApiError := .response 500 "Internal Server Error"

theorem networks_recorded_outage : (halfTeardown outage).2.2.status.networks =
    [{ name := "b", networkID := "2", managed := true }] ∧
    RecordsLeft twoNetworks (halfTeardown outage).1 (halfTeardown outage).2.1
      (halfTeardown outage).2.2 := by
  refine ⟨by decide +kernel, ?_⟩
  have hrun := deleteNetwork.runs_record (firstOnly outage) twoNetworks
  exact (networks_recorded_iff hrun).mpr (.inl (by decide +kernel))

/-- The refusal for pool members. -/
def poolMembers : ApiError :=
  .response 400 "The network is still in use by load balancer pool members."

/-- The first network is deleted and the second refused: both stay recorded. -/
theorem stopped_teardown : (deleteNetwork.exec twoNetworks).Runs (halfTeardown poolMembers).1
      ((halfTeardown poolMembers).2.1, (halfTeardown poolMembers).2.2) ∧
    (halfTeardown poolMembers).2.2.status.networks = twoNetworks.status.networks ∧
    ¬ RecordsLeft twoNetworks (halfTeardown poolMembers).1 (halfTeardown poolMembers).2.1
      (halfTeardown poolMembers).2.2 := by
  refine ⟨deleteNetwork.runs_record _ _, by decide +kernel, ?_⟩
  rintro ⟨hnets, -⟩
  revert hnets
  decide +kernel

end Capcs.Teardown
