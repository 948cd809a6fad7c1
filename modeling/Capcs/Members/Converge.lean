import Capcs.Controller.Rules
import Capcs.Members.Loops
import Mathlib.Data.List.Perm.Lattice

/-!
# Capcs.Members.Converge — reconcileLBMembers brings the pool to its machines

`reconcileLBMembers` as a whole, from any pool and any list of machines: without a requeue or an
error, the members are afterwards those of the machines with an address on the member subnet.
Whatever the outcome, such members are not deleted, and nothing is lost that was not deleted.
-/

namespace Capcs.Members

open Cloudscale Controller
open Interaction.Contract

variable {pool : String} {machines : List CloudscaleMachine}
  {c c' : CloudscaleCluster} {w w' : Pool} {current created : List LoadBalancerPoolMember}
  {desired : List LoadBalancerPoolMemberRequest} {net : Net.Prefix} {machine : CloudscaleMachine}

/-! ## The desired members -/

/-- The prefix of the member subnet, if it is known. -/
def memberNet (c : CloudscaleCluster) : Option Net.Prefix :=
  match getPoolMemberSubnetID c with
  | .error _ => none
  | .ok id =>
    match getMemberSubnetCIDR c id with
    | .error _ => none
    | .ok cidr => Net.parseCIDR cidr

theorem memberNet_of_cidr {id cidr : String} (hid : getPoolMemberSubnetID c = .ok id)
    (hcidr : getMemberSubnetCIDR c id = .ok cidr) : memberNet c = Net.parseCIDR cidr := by
  rw [memberNet, hid]
  simp only [hcidr]

/-- An address that a member can have: an internal one, inside the subnet. -/
def Inside (net : Net.Prefix) (a : MachineAddress) : Prop :=
  a.type = .internalIP ∧ ∃ ip, Net.parseIP a.address = some ip ∧ net.ipNetContains ip = true

/-- The first such address that a machine lists. -/
def FirstInside (net : Net.Prefix) (machine : CloudscaleMachine) (address : String) : Prop :=
  ∃ before a after, machine.status.addresses = before ++ a :: after ∧ a.address = address ∧
    Inside net a ∧ ∀ b ∈ before, ¬ Inside net b

theorem inside_iff {a : MachineAddress} : Inside net a ↔
    a.type = .internalIP ∧ a.address ≠ "" ∧
      (Net.parseIP a.address).any (fun ip => net.ipNetContains ip) = true := by
  rw [Option.any_eq_true]
  refine ⟨fun ⟨htype, ip, hip, hin⟩ => ⟨htype, ?_, ip, hip, hin⟩, fun ⟨htype, _, h⟩ => ⟨htype, h⟩⟩
  intro hempty
  rw [hempty] at hip
  cases hip

theorem memberAddress_eq_some {address : String} :
    memberAddress net machine = some address ↔ FirstInside net machine address := by
  simp only [memberAddress, Option.map_eq_some_iff, List.find?_eq_some_iff_append,
    decide_eq_true_eq, ← inside_iff, Bool.not_eq_true', decide_eq_false_iff_not]
  constructor
  · rintro ⟨a, ⟨ha, before, after, hsplit, hnone⟩, rfl⟩
    exact ⟨before, a, after, hsplit, rfl, ha, hnone⟩
  · rintro ⟨before, a, after, hsplit, rfl, ha, hnone⟩
    exact ⟨a, ⟨ha, before, after, hsplit, hnone⟩, rfl⟩

theorem memberAddress_eq_none :
    memberAddress net machine = none ↔ ∀ a ∈ machine.status.addresses, ¬ Inside net a := by
  simp only [memberAddress, Option.map_eq_none_iff, List.find?_eq_none,
    decide_eq_true_eq, ← inside_iff]

/-- The name and the address of the member that a machine is to have, if it is to have one. -/
def memberOf (net : Net.Prefix) (machine : CloudscaleMachine) : Option (String × String) :=
  (memberAddress net machine).map fun address => (machine.metadata.name, address)

/-- The desired members are those of the machines. -/
structure Desires (c : CloudscaleCluster) (machines : List CloudscaleMachine)
    (desired : List LoadBalancerPoolMemberRequest) (net : Net.Prefix) : Prop where
  known : memberNet c = some net
  pairs : desired.map (fun d => (d.name, d.address)) = machines.filterMap (memberOf net)

theorem memberOf_eq_some {name address : String} :
    memberOf net machine = some (name, address) ↔
      machine.metadata.name = name ∧ FirstInside net machine address := by
  simp [memberOf, ← memberAddress_eq_some, and_comm]

theorem desiredMembers_pairs (id : String) (net : Net.Prefix) :
    (desiredMembers c id net machines).map (fun d => (d.name, d.address)) =
      machines.filterMap (memberOf net) := by
  rw [desiredMembers, List.map_filterMap]
  refine List.filterMap_congr fun machine _ => ?_
  rw [memberOf, Option.map_map]
  rfl

theorem getDesiredLoadBalancerMembers_spec (cluster : Cluster) :
    (poolCalls pool machines).wpc (fun out c' w' => c' = c ∧ w' = w ∧
      ∀ desired, out = .ok desired → ∃ net, Desires c machines desired net)
      (getDesiredLoadBalancerMembers cluster) c w := by
  refine getDesiredLoadBalancerMembers_wpc (wpc_perform.mpr ?_)
  rintro w₁ rfl -
  refine ⟨trivial, ?_⟩
  rintro r w₂ ⟨rfl, hmachines⟩ -
  refine ⟨fun _ => ⟨rfl, rfl, by simp⟩, fun ms id cidr net hr hid hcidr hnet => ⟨rfl, rfl, ?_⟩⟩
  cases hr
  obtain rfl := hmachines rfl ms rfl
  rintro _ ⟨⟩
  exact ⟨net, (memberNet_of_cidr hid hcidr).trans hnet, desiredMembers_pairs id net⟩

theorem memberOf_names_sublist (net : Net.Prefix) (machines : List CloudscaleMachine) :
    ((machines.filterMap (memberOf net)).map Prod.fst).Sublist
      (machines.map (·.metadata.name)) := by
  induction machines with
  | nil => exact .slnil
  | cons machine rest ih =>
      rw [List.filterMap_cons, List.map_cons, memberOf]
      cases memberAddress net machine with
      | none => exact ih.cons _
      | some address => exact ih.cons_cons _

theorem Desires.names (h : Desires c machines desired net)
    (hmachines : (machines.map (·.metadata.name)).Nodup) : (desired.map (·.name)).Nodup := by
  have hfst : desired.map (·.name) = (machines.filterMap (memberOf net)).map Prod.fst := by
    rw [← h.pairs, List.map_map]
    rfl
  rw [hfst]
  exact (memberOf_names_sublist net machines).nodup hmachines

/-- A member is wanted as long as some machine of its name has an address on the subnet. -/
theorem Desires.extra_iff (h : Desires c machines desired net) (m : LoadBalancerPoolMember) :
    extra desired m = false ↔
      ∃ machine ∈ machines, machine.metadata.name = m.name ∧
        (memberAddress net machine).isSome := by
  have hmem (p : String × String) : (∃ d ∈ desired, (d.name, d.address) = p) ↔
      ∃ machine ∈ machines, memberOf net machine = some p := by
    rw [← List.mem_map, h.pairs, List.mem_filterMap]
  constructor
  · intro hextra
    obtain ⟨d, hd, hname⟩ : ∃ d ∈ desired, d.name = m.name := by simpa [extra] using hextra
    obtain ⟨machine, hmachine, hof⟩ := (hmem _).mp ⟨d, hd, rfl⟩
    obtain ⟨address, haddr, hpair⟩ := Option.map_eq_some_iff.mp hof
    exact ⟨machine, hmachine, (Prod.ext_iff.mp hpair).1.trans hname, by simp [haddr]⟩
  · rintro ⟨machine, hmachine, hname, haddr⟩
    obtain ⟨address, haddr⟩ := Option.isSome_iff_exists.mp haddr
    obtain ⟨d, hd, hpair⟩ := (hmem (machine.metadata.name, address)).mpr
      ⟨machine, hmachine, by rw [memberOf, haddr]; rfl⟩
    have hd' : ∃ d ∈ desired, d.name = m.name := ⟨d, hd, (Prod.ext_iff.mp hpair).1.trans hname⟩
    simpa [extra] using hd'

/-! ## The members that are left -/

/-- The UUIDs of the listed members that are to be removed. -/
def removed (desired : List LoadBalancerPoolMemberRequest) (current : List LoadBalancerPoolMember) :
    List String := (current.filter (extra desired)).map (·.uuid)

theorem filter_removed (hids : (current.map (·.uuid)).Nodup) :
    (current.filter fun m => m.uuid ∉ removed desired current) =
      current.filter fun m => !extra desired m := by
  refine List.filter_congr fun m hm => ?_
  have hiff : m.uuid ∈ removed desired current ↔ extra desired m = true := by
    constructor
    · intro hmem
      obtain ⟨m', hm', huuid⟩ := List.mem_map.mp hmem
      obtain ⟨hcur, hextra⟩ := List.mem_filter.mp hm'
      exact List.inj_on_of_nodup_map hids hcur hm huuid ▸ hextra
    · exact fun hextra => List.mem_map_of_mem (List.mem_filter.mpr ⟨hm, hextra⟩)
  rw [Bool.eq_iff_iff]
  simp [hiff]

theorem moved_of_mem (hnames : (desired.map (·.name)).Nodup) {d : LoadBalancerPoolMemberRequest}
    {m : LoadBalancerPoolMember} (hd : d ∈ desired) (hname : d.name = m.name) :
    moved desired m = { m with address := d.address } := by
  have hfind : (desired.find? fun d => d.name = m.name) = some d := by
    cases hf : desired.find? fun d => d.name = m.name with
    | none => exact absurd hname (by simpa using List.find?_eq_none.mp hf d hd)
    | some d' =>
        have hd' : d'.name = m.name := by simpa using List.find?_some hf
        rw [List.inj_on_of_nodup_map hnames (List.mem_of_find?_eq_some hf) hd
          (hd'.trans hname.symm)]
  rw [moved, hfind]

/-- The wanted members that were there have the names and addresses of the desired ones. -/
theorem wanted_pairs (hcurrent : (current.map (·.name)).Nodup)
    (hnames : (desired.map (·.name)).Nodup) :
    ((current.filter fun m => !extra desired m).map fun m =>
        (m.name, (moved desired m).address)).Perm
      ((desired.filter fun d => !missing current d).map fun d => (d.name, d.address)) := by
  -- neither list has a name twice, so it is enough to compare members
  have hleft : ((current.filter fun m => !extra desired m).map fun m =>
      (m.name, (moved desired m).address)).Nodup := by
    refine List.Nodup.of_map Prod.fst ?_
    rw [List.map_map]
    exact (List.filter_sublist.map _).nodup hcurrent
  have hright : ((desired.filter fun d => !missing current d).map fun d =>
      (d.name, d.address)).Nodup := by
    refine List.Nodup.of_map Prod.fst ?_
    rw [List.map_map]
    exact (List.filter_sublist.map _).nodup hnames
  have hpair {d : LoadBalancerPoolMemberRequest} {m : LoadBalancerPoolMember} (hd : d ∈ desired)
      (hname : d.name = m.name) : (m.name, (moved desired m).address) = (d.name, d.address) := by
    rw [moved_of_mem hnames hd hname, hname]
  rw [List.perm_ext_iff_of_nodup hleft hright]
  intro p
  simp only [List.mem_map, List.mem_filter, Bool.not_eq_true']
  constructor
  · rintro ⟨m, ⟨hm, hextra⟩, rfl⟩
    obtain ⟨d, hd, hname⟩ : ∃ d ∈ desired, d.name = m.name := by simpa [extra] using hextra
    refine ⟨d, ⟨hd, ?_⟩, (hpair hd hname).symm⟩
    rw [Bool.eq_false_iff]
    exact fun hmissing => missing_iff.mp hmissing m hm hname.symm
  · rintro ⟨d, ⟨hd, hthere⟩, rfl⟩
    obtain ⟨m, hm, hname⟩ : ∃ m ∈ current, m.name = d.name := by
      rw [Bool.eq_false_iff, ne_eq, missing_iff] at hthere
      simpa using hthere
    refine ⟨m, ⟨hm, ?_⟩, hpair hd hname.symm⟩
    have hd' : ∃ d ∈ desired, d.name = m.name := ⟨d, hd, hname.symm⟩
    simpa [extra] using hd'

/-- With all desired members there and all others removed, the members are the desired ones. -/
theorem Shape.pairs (h : Shape current desired created (removed desired current) w)
    (hcurrent : (current.map (·.name)).Nodup) (hnames : (desired.map (·.name)).Nodup) :
    (w.members.map fun m => (m.name, m.address)).Perm
      (desired.map fun d => (d.name, d.address)) := by
  have hids : (current.map (·.uuid)).Nodup := (List.nodup_append.mp h.distinct).1
  have hperm := h.members.map fun m => (m.name, m.address)
  rw [filter_removed hids, List.map_append, List.map_map, h.made] at hperm
  have hkept : (current.filter fun m => !extra desired m).map
      ((fun m => (m.name, m.address)) ∘ moved desired) =
        (current.filter fun m => !extra desired m).map fun m =>
          (m.name, (moved desired m).address) :=
    List.map_congr_left fun m _ => by simp
  rw [hkept] at hperm
  refine hperm.trans (((wanted_pairs hcurrent hnames).append_right _).trans ?_)
  rw [← List.map_append]
  refine (List.perm_append_comm.trans ?_).map _
  exact List.filter_append_perm _ _

/-- A member that is already as desired is left as it is. -/
theorem Shape.unchanged (h : Shape current desired created (removed desired current) w)
    (hnames : (desired.map (·.name)).Nodup) {m : LoadBalancerPoolMember}
    {d : LoadBalancerPoolMemberRequest} (hm : m ∈ current) (hd : d ∈ desired)
    (hname : d.name = m.name) (haddr : d.address = m.address) : m ∈ w.members := by
  have hids : (current.map (·.uuid)).Nodup := (List.nodup_append.mp h.distinct).1
  have hsame : moved desired m = m := by rw [moved_of_mem hnames hd hname, haddr]
  rw [h.members.mem_iff, filter_removed hids]
  refine List.mem_append_left _ (List.mem_map.mpr ⟨m, List.mem_filter.mpr ⟨hm, ?_⟩, hsame⟩)
  have hd' : ∃ d ∈ desired, d.name = m.name := ⟨d, hd, hname⟩
  simpa [extra] using hd'

/-! ## The whole step -/

/-- The listed members, with what is known of them. -/
structure Listed (w : Pool) (current : List LoadBalancerPoolMember) : Prop where
  perm : current.Perm w.members
  names : (current.map (·.name)).Nodup
  ids : (current.map (·.uuid)).Nodup

/-- The outcome of `reconcileLBMembers`: the members listed and the members desired when all is
done, and what holds in any case. -/
theorem reconcileLBMembers_spec (cluster : Cluster) (hids : w.ids.Nodup)
    (hnames : (w.members.map (·.name)).Nodup) (hdel : w.deleted = [])
    (hmachines : (machines.map (·.metadata.name)).Nodup) :
    (poolCalls c.status.loadBalancerPoolID machines).wpc (fun out _ w' =>
      (w' = w ∨ ∃ current desired net, Listed w current ∧ Desires c machines desired net ∧
        SafeSoFar current desired w') ∧
      ∀ r, out = .ok r → r.isZero = true → ∃ current desired net created, Listed w current ∧
        Desires c machines desired net ∧ Removing current desired created
          (removed desired current) w')
      (reconcileLBMembers cluster) c w := by
  rw [reconcileLBMembers, wpc_read_bind, wpc_bind]
  refine wpc_perform.mpr ?_
  rintro w₁ rfl -
  refine ⟨trivial, ?_⟩
  rintro r w₂ ⟨rfl, hlist⟩ -
  rw [after_ok]
  cases r with
  | error err => exact ⟨.inl rfl, by simp⟩
  | ok current =>
      have hperm : current.Perm w₂.members := hlist rfl current rfl
      have hlisted : Listed w₂ current :=
        ⟨hperm, (hperm.map _).nodup_iff.mpr hnames, (hperm.map _).nodup_iff.mpr hids⟩
      refine wpc_seq (wpc_wrapped (getDesiredLoadBalancerMembers_spec cluster) ?_) ?_
      · exact fun _ _ _ hout => ⟨hout.1, hout.2.1, by simp⟩
      rintro out c₁ w₁ ⟨rfl, rfl, hdesired⟩
      cases out with
      | error err => exact ⟨.inl rfl, by simp⟩
      | ok desired =>
          obtain ⟨net, hdes⟩ := hdesired desired rfl
          rw [after_ok]
          have hstart : Shape current [] [] [] w₁ := shape_start hlisted.ids hperm hdel
          refine wpc_seq
            (addMembers_spec hlisted.names desired rfl hstart (hdes.names hmachines)) ?_
          rintro out c₂ w₂ ⟨hkept, hnone, hzero⟩
          -- nothing is removed until everything desired is there
          have hsafe : SafeSoFar current desired w₂ := ⟨hkept, by simp [hnone]⟩
          cases out with
          | error err => exact ⟨.inr ⟨current, desired, net, hlisted, hdes, hsafe⟩, by simp⟩
          | ok r =>
              simp only [after_ok, wpc_ite]
              split
              · next hr =>
                obtain ⟨hpool, created, hadded⟩ := hzero r rfl hr
                have hremove : Removing current desired created [] w₂ := ⟨hadded, by simp⟩
                refine wpc_seq (removeMembers_spec current (List.Subset.refl _) hpool hremove) ?_
                rintro out c₃ w₃ ⟨hsafe, hend⟩
                cases out with
                | error err => exact ⟨.inr ⟨current, desired, net, hlisted, hdes, hsafe⟩, by simp⟩
                | ok _ =>
                    refine ⟨.inr ⟨current, desired, net, hlisted, hdes, hsafe⟩, ?_⟩
                    exact fun _ _ _ => ⟨current, desired, net, created, hlisted, hdes, hend rfl⟩
              · next hr =>
                refine ⟨.inr ⟨current, desired, net, hlisted, hdes, hsafe⟩, ?_⟩
                rintro _ ⟨⟩ hr'
                exact absurd hr' hr

/-! ## Executions -/

/-- There is one member for each machine with an internal address inside the subnet, of the name of
the machine and at the first such address, and no other member; one that was so before is still the
same one. -/
structure Converged (net : Net.Prefix) (machines : List CloudscaleMachine) (before after : Pool) :
    Prop where
  names : (after.members.map (·.name)).Nodup
  members : ∀ name address, (∃ m ∈ after.members, m.name = name ∧ m.address = address) ↔
    ∃ machine ∈ machines, machine.metadata.name = name ∧ FirstInside net machine address
  same : ∀ m ∈ before.members, ∀ machine ∈ machines, machine.metadata.name = m.name →
    FirstInside net machine m.address → m ∈ after.members

/-- What was not deleted is still there, and only members are deleted whose machine has no address
inside the subnet or does not exist. -/
structure Unharmed (c : CloudscaleCluster) (machines : List CloudscaleMachine)
    (before after : Pool) :
    Prop where
  there : Survives before.members after
  spared : ∀ id ∈ after.deleted, ∃ m ∈ before.members, m.uuid = id ∧ ∀ net, memberNet c = some net →
    ∀ machine ∈ machines, machine.metadata.name = m.name →
      ∀ a ∈ machine.status.addresses, ¬ Inside net a

theorem SafeSoFar.unharmed (h : SafeSoFar current desired w') (hlisted : Listed w current)
    (hdes : Desires c machines desired net) : Unharmed c machines w w' where
  there := fun m hm => h.kept m (hlisted.perm.mem_iff.mpr hm)
  spared := by
    intro id hid
    obtain ⟨m, hm, huuid, hextra⟩ := h.undesired id hid
    refine ⟨m, hlisted.perm.mem_iff.mp hm, huuid, ?_⟩
    intro net' hnet machine hmachine hname
    obtain rfl : net = net' := Option.some.inj (hdes.known.symm.trans hnet)
    rw [← memberAddress_eq_none, ← Option.not_isSome_iff_eq_none]
    intro haddr
    rw [(hdes.extra_iff m).mpr ⟨machine, hmachine, hname, haddr⟩] at hextra
    cases hextra

theorem Removing.pairs (h : Removing current desired created (removed desired current) w')
    (hlisted : Listed w current) (hdes : Desires c machines desired net)
    (hmachines : (machines.map (·.metadata.name)).Nodup) :
    (w'.members.map fun m => (m.name, m.address)).Perm (machines.filterMap (memberOf net)) := by
  rw [← hdes.pairs]
  exact h.shape.pairs hlisted.names (hdes.names hmachines)

theorem Removing.converged (h : Removing current desired created (removed desired current) w')
    (hlisted : Listed w current) (hdes : Desires c machines desired net)
    (hmachines : (machines.map (·.metadata.name)).Nodup) : Converged net machines w w' where
  names := by
    have hnames := (h.pairs hlisted hdes hmachines).map Prod.fst
    rw [List.map_map] at hnames
    exact hnames.nodup_iff.mpr ((memberOf_names_sublist net machines).nodup hmachines)
  members := by
    intro name address
    have hmem := (h.pairs hlisted hdes hmachines).mem_iff (a := (name, address))
    simpa only [List.mem_map, List.mem_filterMap, Prod.mk.injEq, memberOf_eq_some] using hmem
  same := by
    intro m hm machine hmachine hname hfirst
    have hpair : (m.name, m.address) ∈ desired.map fun d => (d.name, d.address) := by
      rw [hdes.pairs]
      exact List.mem_filterMap.mpr ⟨machine, hmachine, memberOf_eq_some.mpr ⟨hname, hfirst⟩⟩
    obtain ⟨d, hd, hpair⟩ := List.mem_map.mp hpair
    obtain ⟨hname, haddr⟩ := Prod.ext_iff.mp hpair
    exact h.shape.unchanged (hdes.names hmachines) (hlisted.perm.mem_iff.mpr hm) hd hname haddr

/-- An execution of `reconcileLBMembers` and what it leaves. -/
theorem executes_reconcileLBMembers {Q : Except GoError Result → CloudscaleCluster → Pool → Prop}
    {cluster : Cluster} {out : Except GoError Result}
    (hspec : (poolCalls pool machines).wpc Q (reconcileLBMembers cluster) c w)
    (hids : w.ids.Nodup)
    (hrun : ((reconcileLBMembers cluster).exec c).Executes (PoolAnswers pool machines) w
      (out, c') w') :
    Q out c' w' :=
  (executes_of_wp (C := poolCalls pool machines) (fun _ => rfl)
    (fun _ _ _ _ hinv _ hans => hans.nodup hinv) hrun hids hspec).2

/-- `reconcileLBMembers` brings the pool to its machines, and harms nothing on the way there. -/
theorem members_converge {cluster : Cluster} {out : Except GoError Result} (hids : w.ids.Nodup)
    (hnames : (w.members.map (·.name)).Nodup) (hdel : w.deleted = [])
    (hmachines : (machines.map (·.metadata.name)).Nodup)
    (hrun : ((reconcileLBMembers cluster).exec c).Executes
      (PoolAnswers c.status.loadBalancerPoolID machines) w (out, c') w') :
    (∀ r, out = .ok r → r.isZero = true →
      ∃ net, memberNet c = some net ∧ Converged net machines w w') ∧ Unharmed c machines w w' := by
  obtain ⟨hsafe, hzero⟩ := executes_reconcileLBMembers
    (reconcileLBMembers_spec cluster hids hnames hdel hmachines) hids hrun
  constructor
  · intro r hout hr
    obtain ⟨current, desired, net, created, hlisted, hdes, hend⟩ := hzero r hout hr
    exact ⟨net, hdes.known, hend.converged hlisted hdes hmachines⟩
  · rcases hsafe with rfl | ⟨current, desired, net, hlisted, hdes, hsafe⟩
    · exact ⟨fun m hm => .inr ⟨m, hm, rfl, rfl⟩, by simp [hdel]⟩
    · exact hsafe.unharmed hlisted hdes

/-- A machine with an internal address. -/
def nodeAt (name address : String) : CloudscaleMachine :=
  { metadata := { name, ns := "default" }
    status := { addresses := [{ type := .internalIP, address }] } }

/-- A machine with several interfaces: a public one, whose address is inside the subnet of the
members all the same, one on another network and two on that subnet. -/
def multiNode (name : String) : CloudscaleMachine :=
  { metadata := { name, ns := "default" }
    status := { addresses := [{ type := .externalIP, address := "10.0.0.7" },
      { type := .internalIP, address := "10.1.0.4" },
        { type := .internalIP, address := "10.0.0.4" },
      { type := .internalIP, address := "10.0.0.5" }] } }

/-- A cluster whose members are on a subnet that is known. -/
def pooledCluster : CloudscaleCluster :=
  { metadata := { name := "c", ns := "default" }
    spec := { region := "rma", controlPlaneLoadBalancer := { poolMemberNetwork := "net" } }
    status := { networks := [{ name := "net", networkID := "n", subnetID := "s"
                               cidr := "10.0.0.0/24", managed := true }]
                loadBalancerPoolID := "p" } }

/-- One member is as it should be, one has moved and one is left over. -/
def stalePool : Pool :=
  { members := [{ uuid := "1", name := "a", address := "10.0.0.1" },
      { uuid := "2", name := "b", address := "10.0.0.2" },
      { uuid := "3", name := "x", address := "10.0.0.3" }] }

/-- Another machine is new. -/
def newMachines : List CloudscaleMachine :=
  [nodeAt "a" "10.0.0.1", nodeAt "b" "10.0.0.9", multiNode "d", nodeAt "e" "10.1.0.1"]

/-- No calls but those about members and machines are answered. -/
def onlyMembers : (op : Op) → op.Reply
  | .get _ _ | .list _ _ | .create _ _ | .delete _ _ | .createInterface _ _ | .deleteInterface _ _
  | .updateFloatingIP _ _ | .listMembers _ | .createMember _ _ | .updateMember _ _ _
  | .deleteMember _ _ => .error (.other "")
  | .listMachines _ _ _ | .getSecret _ _ => .error (.other "")

/-- `reconcileLBMembers` over a pool that can be run. -/
def runMembers (cluster : Cluster) (c : CloudscaleCluster) (machines : List CloudscaleMachine)
    (w : Pool) : (Except GoError Result × CloudscaleCluster) × Pool :=
  ((reconcileLBMembers cluster).exec c).drive
    (servePool c.status.loadBalancerPoolID machines false onlyMembers) w

theorem runMembers_executes (cluster : Cluster) (c : CloudscaleCluster)
    (machines : List CloudscaleMachine) (w : Pool) :
    ((reconcileLBMembers cluster).exec c).Executes
      (PoolAnswers c.status.loadBalancerPoolID machines) w
      ((runMembers cluster c machines w).1.1, (runMembers cluster c machines w).1.2)
      (runMembers cluster c machines w).2 :=
  servePool_executes ..

/-- The members after the step: the new machine gets one at the first of its addresses on the
subnet. -/
theorem members_converge_stale :
    (runMembers { name := "c", ns := "default" } pooledCluster newMachines stalePool).2.members =
      [{ uuid := "1", name := "a", address := "10.0.0.1" },
        { uuid := "2", name := "b", address := "10.0.0.9" },
        { uuid := "member-d", name := "d", address := "10.0.0.4" }] ∧
    ∃ net, memberNet pooledCluster = some net ∧ Converged net newMachines stalePool
      (runMembers { name := "c", ns := "default" } pooledCluster newMachines stalePool).2 := by
  refine ⟨by decide +kernel, ?_⟩
  have hzero : (runMembers { name := "c", ns := "default" } pooledCluster newMachines
      stalePool).1.1 = .ok {} := by decide +kernel
  exact (members_converge (by decide) (by decide) rfl (by decide)
    (runMembers_executes { name := "c", ns := "default" } pooledCluster newMachines
      stalePool)).1 {} hzero rfl

end Capcs.Members
