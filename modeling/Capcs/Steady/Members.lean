import Capcs.Steady.Project
import Capcs.Controller.Frames

/-!
# Capcs.Steady.Members — pools that are settled

`MembersSettled c machines ms`: the members `ms` are those that the machines ask for. That
`reconcileLBMembers` gets there is a fact about pools (`Capcs.Members`), which a project inherits
because each of its pools follows along (`follows`). Once the pool is settled, the two loops find
nothing to do.
-/

namespace Capcs.Steady

open Cloudscale Controller
open Members (Pool memberNet memberOf Desires)
open Interaction (Proc)
open Interaction.Contract
open Interaction.Program (Accepted)

variable {machines : List CloudscaleMachine} {P P' : Project} {c c' : CloudscaleCluster}
  {cluster : Cluster} {ms current : List LoadBalancerPoolMember}
  {desired : List LoadBalancerPoolMemberRequest}

/-- There is one member for each machine with an address on the subnet, and no other. -/
def MembersSettled (c : CloudscaleCluster) (machines : List CloudscaleMachine)
    (ms : List LoadBalancerPoolMember) : Prop :=
  ∃ net, memberNet c = some net ∧
    (ms.map fun m => (m.name, m.address)).Perm (machines.filterMap (memberOf net))

/-! ## A step that works -/

/-- The pool after a member was added to it. -/
theorem added_follows {pool : String} {w : Pool} {req : LoadBalancerPoolMemberRequest}
    {m : LoadBalancerPoolMember} (hw : w.members = P.members pool)
    (h : Members.Added (P.pool pool) req m (P'.pool pool)) :
    Members.Added w req m { w with members := P'.members pool } where
  fresh := by
    rw [Pool.ids, hw]
    exact h.fresh
  name := h.name
  address := h.address
  members := by
    rw [hw]
    exact h.members
  deleted := rfl

/-- The pool after its members were changed, if it is this one. -/
theorem Repooled.follows {p pool : String} {w w₁ : Pool} (hw : w.members = P.members pool)
    (h : Repooled P p ms P') (hms : p = pool → ms = w₁.members) :
    (if p = pool then w₁ else w).members = P'.members pool := by
  rw [h.members, Function.update_apply]
  by_cases hp : p = pool
  · rw [if_pos hp, if_pos hp.symm, hms hp]
  · rw [if_neg hp, if_neg (Ne.symm hp), hw]

theorem Repooled.follows_or {p pool : String} {w w₁ : Pool} (hw : w.members = P.members pool)
    (h : P' = P ∨ Repooled P p ms P') (hms : p = pool → ms = w₁.members) :
    ∃ w', (w' = w ∨ p = pool ∧ w' = w₁) ∧ w'.members = P'.members pool := by
  rcases h with rfl | h
  · exact ⟨w, .inl rfl, hw⟩
  · refine ⟨_, ?_, h.follows hw hms⟩
    split
    case isTrue hp => exact .inr ⟨hp, rfl⟩
    case isFalse => exact .inl rfl

/-- A pool goes along with the project it is in. -/
theorem follows (pool : String) (w : Pool) (op : Op) (r : op.Reply) (habout : AboutMembers op)
    (hw : w.members = P.members pool) (hans : ProjectAnswers machines P op r P') :
    ∃ w', Members.PoolAnswers pool machines w op r w' ∧ w'.members = P'.members pool := by
  -- the pool of a project has no past, but that does not show in its members
  have hmove {p id address : String} (hp : p = pool) :
      ((P.pool p).move id address).members = (w.move id address).members := by
    rw [hp, Project.pool, Pool.move, Pool.move, hw]
  have hdrop {p id : String} (hp : p = pool) :
      ((P.pool p).drop id).members = (w.drop id).members := by
    rw [hp, Project.pool, Pool.drop, Pool.drop, hw]
  cases op with
  | listMembers p =>
      obtain rfl := hans.unchanged trivial
      refine ⟨w, ⟨rfl, ?_⟩, hw⟩
      rintro rfl ms rfl
      rw [hw]
      exact hans.2
  | listMachines ns name controlPlane =>
      obtain rfl := hans.unchanged trivial
      refine ⟨w, ⟨rfl, ?_⟩, hw⟩
      rintro - ms rfl
      exact hans.2
  | createMember p req =>
      cases r with
      | ok m =>
          obtain ⟨-, hothers, hadded⟩ := hans
          by_cases hp : p = pool
          · subst hp
            exact ⟨_, (if_pos rfl).mpr (added_follows hw hadded), rfl⟩
          · exact ⟨w, (if_neg hp).mpr rfl, hw.trans (hothers pool (Ne.symm hp)).symm⟩
      | error e =>
          rcases hans with rfl | ⟨m, -, hothers, hadded⟩
          · exact ⟨w, .inl rfl, hw⟩
          · by_cases hp : p = pool
            · subst hp
              exact ⟨_, .inr ⟨rfl, m, added_follows hw hadded⟩, rfl⟩
            · exact ⟨w, .inl rfl, hw.trans (hothers pool (Ne.symm hp)).symm⟩
  | updateMember p id req =>
      cases r with
      | ok u => exact ⟨_, rfl, Repooled.follows hw hans hmove⟩
      | error e => exact Repooled.follows_or hw hans hmove
  | deleteMember p id =>
      cases r with
      | ok u => exact ⟨_, rfl, Repooled.follows hw hans hdrop⟩
      | error e => exact Repooled.follows_or hw hans hdrop
  | get | list | create | delete | createInterface | deleteInterface | updateFloatingIP
  | getSecret => exact habout.elim

/-- The calls about members leave the resources alone. -/
theorem members_found {op : Op} {r : op.Reply} (habout : AboutMembers op)
    (hans : ProjectAnswers machines P op r P') : P'.found = P.found := by
  cases op with
  | listMembers | listMachines => rw [hans.unchanged trivial]
  | createMember p req =>
      cases r with
      | ok m => exact hans.1
      | error e =>
          rcases hans with rfl | ⟨m, hfound, -⟩
          · rfl
          · exact hfound
  | updateMember | deleteMember =>
      cases r with
      | ok u => exact hans.found
      | error e =>
          rcases hans with rfl | hans
          · rfl
          · exact hans.found
  | get | list | create | delete | createInterface | deleteInterface | updateFloatingIP
  | getSecret => exact habout.elim

theorem accepted_members_found {tr : List (Interaction.Program.Event Op Op.Reply)}
    (hacc : Accepted (ProjectAnswers machines) P tr P') (habout : ∀ e ∈ tr, AboutMembers e.op) :
    P'.found = P.found := by
  induction hacc with
  | nil => rfl
  | cons hans _ ih =>
      rw [ih fun e he => habout e (List.mem_cons_of_mem _ he)]
      exact members_found (habout _ List.mem_cons_self) hans

/-- Members that are done with are those of the machines, and the resources are as before. -/
theorem reconcileLBMembers_settles
    (hnames : ((P.members c.status.loadBalancerPoolID).map (·.name)).Nodup)
    (hmachines : (machines.map (·.metadata.name)).Nodup) :
    (works machines).returns (Ends fun c' P' => offMembers c' = offMembers c ∧ P'.found = P.found ∧
      MembersSettled c machines (P'.members c.status.loadBalancerPoolID))
      (reconcileLBMembers cluster) c P := by
  refine Interaction.Program.wp_of_accepted (fun _ _ h => h) (fun _ _ => trivial) ?_
  rintro tr ⟨out, c'⟩ P' hrun hacc result hout hzero
  have hacc' : Accepted (ProjectAnswers machines) P tr P' := hacc.mono fun _ _ _ _ h => h.1
  obtain ⟨hframe, habout⟩ := (reconcileLBMembers_frame cluster).runs hrun
  -- the same run, with the pool of the project in place of the project
  obtain ⟨w, hw, hmembers⟩ := hacc'.simulate (S := AboutMembers)
    (fun _ w op r _ habout hw hans => follows c.status.loadBalancerPoolID w op r habout hw hans)
    habout (rfl : (P.pool c.status.loadBalancerPoolID).members = _)
  have hexec := Interaction.Program.executes_iff.mpr ⟨tr, hrun, hw⟩
  have hids : (P.pool c.status.loadBalancerPoolID).ids.Nodup := P.distinct _
  obtain ⟨-, hend⟩ := Members.executes_reconcileLBMembers
    (Members.reconcileLBMembers_spec cluster hids hnames rfl hmachines) hids hexec
  obtain ⟨current, desired, net, created, hlisted, hdesires, hremoving⟩ := hend result hout hzero
  refine ⟨hframe, accepted_members_found hacc' habout, net, hdesires.known, ?_⟩
  rw [← hmembers]
  exact hremoving.pairs hlisted hdesires hmachines

/-! ## A step that looks -/

/-- Every desired member is there with its address. -/
theorem addMembers_looks (todo : List LoadBalancerPoolMemberRequest)
    (h : ∀ d ∈ todo, ∃ m, currentByName current d.name = some m ∧ m.address = d.address) :
    (looks machines).Preserves (Rests c P) (addMembers current todo) := by
  induction todo with
  | nil => exact .pure _
  | cons d rest ih =>
      obtain ⟨m, hm, haddress⟩ := h d List.mem_cons_self
      rw [addMembers, hm]
      refine .bind ?_ fun _ => ih fun d' hd' => h d' (List.mem_cons_of_mem _ hd')
      exact .ite (fun hne => absurd haddress hne) fun _ => .pure _

/-- Every member is desired. -/
theorem removeMembers_looks (todo : List LoadBalancerPoolMember)
    (h : ∀ m ∈ todo, ∃ d ∈ desired, d.name = m.name) :
    (looks machines).Preserves (Rests c P) (removeMembers desired todo) := by
  induction todo with
  | nil => exact .pure _
  | cons m rest ih =>
      refine .bind (.ite (fun hextra => ?_) fun _ => .pure _)
        fun _ => ih fun m' hm' => h m' (List.mem_cons_of_mem _ hm')
      obtain ⟨d, hd, hname⟩ := h m List.mem_cons_self
      have hany : desired.any (fun d => decide (d.name = m.name)) = true :=
        List.any_eq_true.mpr ⟨d, hd, by simpa using hname⟩
      simp [hany] at hextra

/-- In a settled pool the loops find every desired member, and no other. -/
theorem found_of_pairs (hnames : (desired.map (·.name)).Nodup)
    (hpairs : (ms.map fun m => (m.name, m.address)).Perm
      (desired.map fun d => (d.name, d.address))) :
    (∀ d ∈ desired, ∃ m, currentByName ms d.name = some m ∧ m.address = d.address) ∧
      ∀ m ∈ ms, ∃ d ∈ desired, d.name = m.name := by
  have hback : ∀ m ∈ ms, ∃ d ∈ desired, d.name = m.name ∧ d.address = m.address := by
    intro m hm
    have hmem := hpairs.mem_iff.mp (List.mem_map_of_mem hm)
    obtain ⟨d, hd, hpair⟩ := List.mem_map.mp hmem
    exact ⟨d, hd, (Prod.mk.inj hpair).1, (Prod.mk.inj hpair).2⟩
  refine ⟨fun d hd => ?_, fun m hm => ?_⟩
  · obtain ⟨m, hm, hpair⟩ := List.mem_map.mp (hpairs.mem_iff.mpr (List.mem_map_of_mem hd))
    cases hcur : currentByName ms d.name with
    | none =>
        rw [currentByName, List.getLast?_eq_none_iff, List.filter_eq_nil_iff] at hcur
        exact absurd (Prod.mk.inj hpair).1 (by simpa using hcur m hm)
    | some m' =>
        -- names are unique among the desired members, so the address is that of `d`
        obtain ⟨hm', hname'⟩ := Members.mem_of_currentByName hcur
        obtain ⟨d', hd', hname, haddress⟩ := hback m' hm'
        obtain rfl := List.inj_on_of_nodup_map hnames hd' hd (hname.trans hname')
        exact ⟨m', rfl, haddress.symm⟩
  · obtain ⟨d, hd, hname, -⟩ := hback m hm
    exact ⟨d, hd, hname⟩

/-- How the subnet of the members is found. -/
theorem memberNet_eq_some {net : Net.Prefix} (h : memberNet c = some net) :
    ∃ id cidr, getPoolMemberSubnetID c = .ok id ∧ getMemberSubnetCIDR c id = .ok cidr ∧
      Net.parseCIDR cidr = some net := by
  unfold memberNet at h
  cases hid : getPoolMemberSubnetID c with
  | error e =>
      rw [hid] at h
      cases h
  | ok id =>
      rw [hid] at h
      dsimp only at h
      cases hcidr : getMemberSubnetCIDR c id with
      | error e =>
          rw [hcidr] at h
          cases h
      | ok cidr =>
          rw [hcidr] at h
          exact ⟨id, cidr, rfl, hcidr, h⟩

/-- Over a settled pool the members step only looks. -/
theorem reconcileLBMembers_looks
    (h : MembersSettled c machines (P.members c.status.loadBalancerPoolID))
    (hmachines : (machines.map (·.metadata.name)).Nodup) :
    (looks machines).Preserves (Rests c P) (reconcileLBMembers cluster) := by
  obtain ⟨net, hnet, hpairs⟩ := h
  refine looks_read fun _ => looks_call trivial fun r hans => ?_
  cases r with
  | error e => exact .fail _
  | ok current =>
      refine .wrapErr_bind ?_
      rw [getDesiredLoadBalancerMembers, bind_assoc]
      refine looks_read fun conditions => ?_
      rw [bind_assoc]
      refine looks_call trivial fun r' hans' => ?_
      cases r' with
      | error e => exact .fail _
      | ok ms' =>
          obtain rfl : ms' = machines := hans'.2
          obtain ⟨id, cidr, hid, hcidr, hparse⟩ := memberNet_eq_some hnet
          have hid' : getPoolMemberSubnetID
            { c with status := { c.status with conditions } } = .ok id := hid
          have hcidr' : getMemberSubnetCIDR
            { c with status := { c.status with conditions } } id = .ok cidr := hcidr
          simp only [hid', hcidr', hparse, pure_bind]
          -- the desired members are those that are there
          have hdesired : (desiredMembers c id net ms').map (fun d => (d.name, d.address)) =
            ms'.filterMap (memberOf net) := Members.desiredMembers_pairs id net
          have hnames : ((desiredMembers c id net ms').map (·.name)).Nodup :=
            Desires.names ⟨hnet, hdesired⟩ hmachines
          have hperm : (current.map fun m => (m.name, m.address)).Perm
              ((desiredMembers c id net ms').map fun d => (d.name, d.address)) := by
            rw [hdesired]
            exact (hans.2.map _).trans hpairs
          obtain ⟨hthere, hwanted⟩ := found_of_pairs hnames hperm
          refine .bind (addMembers_looks _ hthere) fun result => .ite (fun _ => ?_) fun _ => .pure _
          exact .bind (removeMembers_looks _ hwanted) fun _ => .pure _

end Capcs.Steady
