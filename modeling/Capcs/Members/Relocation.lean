import Capcs.Members.Tracking
import Capcs.Readiness.Calls
import Capcs.References.Lookups

/-!
# Capcs.Members.Relocation — members after a loss of status

The members of the pool are compared with the addresses that the machines have in their statuses,
and these are lost with the statuses, for instance when the objects are moved to another
management cluster. A normal pass deletes a member only if it has listed the member, and no machine
of its name with an address on the member subnet (`Justified`). So the members of machines whose
statuses have their addresses are safe; but a pass may come before the
machine controller has filled the statuses in again, and then it empties the pool
(`held_member_deleted`).
-/

namespace Capcs.Members

open Cloudscale Controller
open Readiness (CallEvent Trace anyCalls)
open Interaction (Proc Frame history history_perform)
open Interaction.Contract

variable {c c' : CloudscaleCluster} {h h' : Trace} {machines : List CloudscaleMachine}
  {current : List LoadBalancerPoolMember} {desired : List LoadBalancerPoolMemberRequest}
  {pool : String}

/-! ## Why members are deleted -/

/-- What a delete of a member rests on: the listed members and machines, and the subnet. -/
structure Grounds (c : CloudscaleCluster) (h : Trace) (pool : String)
    (current : List LoadBalancerPoolMember) (machines : List CloudscaleMachine) (net : Net.Prefix) :
    Prop where
  members : (⟨.listMembers pool, .ok current⟩ : CallEvent) ∈ h
  machines : ∃ ns name, (⟨.listMachines ns name true, .ok machines⟩ : CallEvent) ∈ h
  net : memberNet c = some net

/-- A member may be deleted: it was listed, and no machine of its name that was listed has an
address on the member subnet. -/
def Unneeded (c : CloudscaleCluster) (h : Trace) (pool id : String) : Prop :=
  ∃ current machines net, Grounds c h pool current machines net ∧ ∃ m ∈ current, m.uuid = id ∧
    ∀ machine ∈ machines, machine.metadata.name = m.name → memberAddress net machine = none

/-- Each delete is of such a member. -/
def Justified (c : CloudscaleCluster) (h : Trace) : Prop :=
  ∀ pre e post pool id, h = pre ++ e :: post → e.op = .deleteMember pool id → Unneeded c pre pool id

theorem memberNet_congr (hlb : c'.spec.controlPlaneLoadBalancer = c.spec.controlPlaneLoadBalancer)
    (hnet : c'.status.networks = c.status.networks) : memberNet c' = memberNet c := by
  unfold memberNet getPoolMemberSubnetID safeUseSubnet getMemberSubnetCIDR
    CloudscaleClusterStatus.getNetworkStatus
  rw [hlb, hnet]

theorem Grounds.later {net : Net.Prefix} (hg : Grounds c h pool current machines net)
    (hle : h ⊆ h') (hsame : memberNet c' = memberNet c) :
    Grounds c' h' pool current machines net := by
  obtain ⟨ns, name, hmachines⟩ := hg.machines
  exact ⟨hle hg.members, ⟨ns, name, hle hmachines⟩, hsame.trans hg.net⟩

/-- A request that deletes a member. -/
def DeletesMember : Op → Prop
  | .deleteMember _ _ => True
  | _ => False

theorem Justified.append (he : Justified c h) {e : CallEvent}
    (hnew : ∀ pool id, e.op = .deleteMember pool id → Unneeded c h pool id) :
    Justified c (h ++ [e]) := by
  intro pre e' post pool id heq hop
  rcases List.eq_nil_or_concat post with rfl | ⟨post, last, rfl⟩
  · obtain ⟨rfl, hlast⟩ := List.append_inj' heq rfl
    obtain rfl : e = e' := List.singleton_inj.mp hlast
    exact hnew pool id hop
  · rw [List.concat_eq_append, ← List.cons_append, ← List.append_assoc] at heq
    exact he pre e' post pool id (List.append_inj' heq rfl).1 hop

theorem Justified.snoc (he : Justified c h) {op : Op} (hop : ¬ DeletesMember op) (r : op.Reply) :
    Justified c (h ++ [⟨op, r⟩]) := by
  refine he.append fun pool id heq => absurd ?_ hop
  rw [show op = _ from heq]
  trivial

theorem Justified.congr (he : Justified c h) (hsame : memberNet c' = memberNet c) :
    Justified c' h := by
  intro pre e post pool id heq hop
  obtain ⟨current, machines, net, hg, hm⟩ := he pre e post pool id heq hop
  exact ⟨current, machines, net, hg.later (List.Subset.refl _) hsame, hm⟩

/-! ## Steps that delete no members -/

/-- In the loops over members, the grounds for deleting are known. -/
structure Loops (pool : String) (current : List LoadBalancerPoolMember)
    (machines : List CloudscaleMachine) (net : Net.Prefix) (c : CloudscaleCluster) (h : Trace) :
    Prop where
  explained : Justified c h
  poolID : c.status.loadBalancerPoolID = pool
  grounds : Grounds c h pool current machines net

section Loops

variable {net : Net.Prefix}

theorem Loops.snoc (hl : Loops pool current machines net c h) {op : Op} (hop : ¬ DeletesMember op)
    (r : op.Reply) : Loops pool current machines net c (h ++ [⟨op, r⟩]) :=
  ⟨hl.explained.snoc hop r, hl.poolID, hl.grounds.later (List.subset_append_left _ _) rfl⟩

/-- A write of the recorded member IDs. -/
theorem Loops.withMemberIDs (hl : Loops pool current machines net c h) (ids : List String) :
    Loops pool current machines net (withMemberIDs ids c) h := by
  have hsame : memberNet (Members.withMemberIDs ids c) = memberNet c := memberNet_congr rfl rfl
  exact ⟨hl.explained.congr hsame, hl.poolID, hl.grounds.later (List.Subset.refl _) hsame⟩

theorem Loops.delete (hl : Loops pool current machines net c h)
    (hdes : Desires c machines desired net) {m : LoadBalancerPoolMember} (hm : m ∈ current)
    (hextra : extra desired m = true) (r : Op.Reply (.deleteMember pool m.uuid)) :
    Loops pool current machines net c (h ++ [⟨.deleteMember pool m.uuid, r⟩]) := by
  refine ⟨hl.explained.append ?_, hl.poolID, hl.grounds.later (List.subset_append_left _ _) rfl⟩
  rintro _ _ ⟨⟩
  refine ⟨current, machines, net, hl.grounds, m, hm, rfl, fun machine hmachine hname => ?_⟩
  rw [← Option.not_isSome_iff_eq_none]
  intro haddr
  rw [(hdes.extra_iff m).mpr ⟨machine, hmachine, hname, haddr⟩] at hextra
  cases hextra

end Loops

end Capcs.Members
