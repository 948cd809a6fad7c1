import Capcs.Members.Converge
import Capcs.Interaction.Accepted
import Capcs.Interaction.Returns

/-!
# Capcs.Steady.Project — a cloud with whole resources

A project holds resources with all their fields,
  and the members of its pools. `ProjectAnswers` says how
it replies to the calls of a pass: reads tell what is there, writes do what they were asked for,
and a call that fails has done that or nothing. What a write does is given by three relations:
`Adds`, `Attached` and `Retargeted`; each of them lets the project grow (`Grows`).

`works` is the contract of a pass that may write, `looks` that of a pass that must not.
-/

namespace Capcs.Steady

open Cloudscale Controller
open Interaction (Contract Proc)
open Interaction.Contract
open Interaction.Program (Accepted accepted_and)

/-! ## Projects -/

/-- The resources of a project, by kind and identifier, and the members of its pools. -/
structure Project where
  found : (k : Kind) → String → Option k.Resource
  members : String → List LoadBalancerPoolMember
  keyed : ∀ k id x, found k id = some x → uuidOf x = id
  named : ∀ k, found k "" = none
  distinct : ∀ p, ((members p).map (·.uuid)).Nodup

/-- A resource that has grown: networks get subnets, routers get interfaces on other networks, and
floating IPs move. The state of routers and load balancers may change at any time. -/
def GrowsInto : {k : Kind} → k.Resource → k.Resource → Prop
  | .network, x, x' => ∃ more, x' = { x with subnets := x.subnets ++ more }
  | .router, x, x' => ∃ more status, x' = { x with interfaces := x.interfaces ++ more, status } ∧
      ∀ j ∈ more, ∀ i ∈ x.interfaces, j.network ≠ i.network ∧ j.uuid ≠ i.uuid
  | .loadBalancer, x, x' => ∃ status, x' = { x with status }
  | .floatingIP, x, x' => ∃ loadBalancer server, x' = { x with loadBalancer, server }
  | .subnet, x, x' => x' = x
  | .pool, x, x' => x' = x
  | .listener, x, x' => x' = x
  | .healthMonitor, x, x' => x' = x
  | .server, x, x' => x' = x
  | .serverGroup, x, x' => x' = x

theorem GrowsInto.refl : {k : Kind} → (x : k.Resource) → GrowsInto x x
  | .network, x => ⟨[], by simp⟩
  | .router, x => ⟨[], x.status, by simp, by simp⟩
  | .loadBalancer, x => ⟨x.status, rfl⟩
  | .floatingIP, x => ⟨x.loadBalancer, x.server, rfl⟩
  | .subnet, _ => rfl
  | .pool, _ => rfl
  | .listener, _ => rfl
  | .healthMonitor, _ => rfl
  | .server, _ => rfl
  | .serverGroup, _ => rfl

theorem GrowsInto.trans {k : Kind} {x y z : k.Resource} (h : GrowsInto x y) (h' : GrowsInto y z) :
    GrowsInto x z := by
  cases k with
  | network =>
      obtain ⟨more, rfl⟩ := h
      obtain ⟨more', rfl⟩ := h'
      exact ⟨more ++ more', by simp⟩
  | router =>
      obtain ⟨more, status, rfl, hnew⟩ := h
      obtain ⟨more', status', rfl, hnew'⟩ := h'
      refine ⟨more ++ more', status', by simp, fun j hj i hi => ?_⟩
      rcases List.mem_append.mp hj with hj | hj
      · exact hnew j hj i hi
      · exact hnew' j hj i (List.mem_append_left _ hi)
  | floatingIP =>
      obtain ⟨loadBalancer, server, rfl⟩ := h
      obtain ⟨loadBalancer', server', rfl⟩ := h'
      exact ⟨loadBalancer', server', rfl⟩
  | loadBalancer =>
      obtain ⟨status, rfl⟩ := h
      obtain ⟨status', rfl⟩ := h'
      exact ⟨status', rfl⟩
  | subnet | pool | listener | healthMonitor | server | serverGroup =>
      exact Eq.trans h' h

/-- What was there is still there. -/
def Grows (P P' : Project) : Prop :=
  ∀ k id x, P.found k id = some x → ∃ x', P'.found k id = some x' ∧ GrowsInto x x'

theorem Grows.refl (P : Project) : Grows P P := fun _ _ x hx => ⟨x, hx, .refl x⟩

theorem Grows.trans {P P' P'' : Project} (h : Grows P P') (h' : Grows P' P'') : Grows P P'' := by
  intro k id x hx
  obtain ⟨y, hy, hxy⟩ := h k id x hx
  obtain ⟨z, hz, hyz⟩ := h' k id y hy
  exact ⟨z, hz, hxy.trans hyz⟩

/-- The project has grown, and the pools are as they were. -/
structure Builds (P P' : Project) : Prop where
  grows : Grows P P'
  members : P'.members = P.members

theorem Builds.refl (P : Project) : Builds P P := ⟨.refl P, rfl⟩

theorem Builds.trans {P P' P'' : Project} (h : Builds P P') (h' : Builds P' P'') : Builds P P'' :=
  ⟨h.grows.trans h'.grows, h'.members.trans h.members⟩

/-! ## Writes -/

/-- A floating IP that is created is assigned as asked. -/
def AsAsked : {k : Kind} → k.Request → k.Resource → Prop
  | .floatingIP, req, x => (req.loadBalancer ≠ "" → x.loadBalancer = some req.loadBalancer) ∧
      (req.server ≠ "" → x.server = some req.server)
  | _, _, _ => True

/-- A resource is created. -/
structure Adds (P : Project) {k : Kind} (req : k.Request) (x : k.Resource) (P' : Project) :
    Prop where
  fresh : P.found k (uuidOf x) = none
  tagged : tagsOf x = requestTags req
  asked : AsAsked req x
  there : P'.found k (uuidOf x) = some x
  builds : Builds P P'

/-- An interface is attached to a router. The router had none on that network. -/
structure Attached (P : Project) (id : String) (req : CreateInterfaceRequest) (i : RouterInterface)
    (P' : Project) : Prop where
  network : i.network = req.network
  there : ∃ x, P.found .router id = some x ∧
    (∀ j ∈ x.interfaces, j.network ≠ i.network ∧ j.uuid ≠ i.uuid) ∧
    P'.found .router id = some { x with interfaces := x.interfaces ++ [i] }
  others : ∀ k id', (k = .router → id' ≠ id) → P'.found k id' = P.found k id'
  members : P'.members = P.members

/-- A floating IP on its new target. -/
def retarget (req : FloatingIPUpdateRequest) (f : FloatingIP) : FloatingIP :=
  if req.loadBalancer ≠ "" then { f with loadBalancer := some req.loadBalancer, server := none }
  else { f with server := some req.server, loadBalancer := none }

/-- A floating IP is moved. -/
structure Retargeted (P : Project) (ip : String) (req : FloatingIPUpdateRequest) (P' : Project) :
    Prop where
  there : ∃ f, P.found .floatingIP ip = some f ∧ P'.found .floatingIP ip = some (retarget req f)
  others : ∀ k id, (k = .floatingIP → id ≠ ip) → P'.found k id = P.found k id
  members : P'.members = P.members

/-- The members of one pool change, and nothing else. -/
structure Repooled (P : Project) (p : String) (ms : List LoadBalancerPoolMember) (P' : Project) :
    Prop where
  found : P'.found = P.found
  members : P'.members = Function.update P.members p ms

/-- The pools as `Capcs.Members` has them. -/
def Project.pool (P : Project) (p : String) : Members.Pool := { members := P.members p }

/-! ## Replies -/

/-- How the project and the Kubernetes API answer. Of deletes nothing is said: the passes here make
none. -/
def ProjectAnswers (machines : List CloudscaleMachine) (P : Project) :
    (op : Op) → op.Reply → Project → Prop
  | .get k id, .ok x, P' => P' = P ∧ P.found k id = some x
  | .get k id, .error e, P' => P' = P ∧ (isNotFound e = true → P.found k id = none)
  | .list k tags, .ok xs, P' => P' = P ∧ xs.Nodup ∧
      ∀ x : k.Resource, x ∈ xs ↔ P.found k (uuidOf x) = some x ∧ matchesTags tags (tagsOf x) = true
  | .list _ _, .error _, P' => P' = P
  | .create _ req, .ok x, P' => Adds P req x P'
  | .create _ req, .error _, P' => P' = P ∨ ∃ x, Adds P req x P'
  | .createInterface id req, .ok i, P' => Attached P id req i P'
  | .createInterface id req, .error _, P' => P' = P ∨ ∃ i, Attached P id req i P'
  | .updateFloatingIP ip req, .ok _, P' => Retargeted P ip req P'
  | .updateFloatingIP ip req, .error _, P' => P' = P ∨ Retargeted P ip req P'
  | .listMembers p, .ok ms, P' => P' = P ∧ ms.Perm (P.members p)
  | .listMembers _, .error _, P' => P' = P
  | .createMember p req, .ok m, P' => P'.found = P.found ∧
      (∀ q, q ≠ p → P'.members q = P.members q) ∧ Members.Added (P.pool p) req m (P'.pool p)
  | .createMember p req, .error _, P' => P' = P ∨ ∃ m, P'.found = P.found ∧
      (∀ q, q ≠ p → P'.members q = P.members q) ∧ Members.Added (P.pool p) req m (P'.pool p)
  | .updateMember p id req, .ok _, P' => Repooled P p ((P.pool p).move id req.address).members P'
  | .updateMember p id req, .error _, P' =>
      P' = P ∨ Repooled P p ((P.pool p).move id req.address).members P'
  | .deleteMember p id, .ok _, P' => Repooled P p ((P.pool p).drop id).members P'
  | .deleteMember p id, .error _, P' => P' = P ∨ Repooled P p ((P.pool p).drop id).members P'
  | .listMachines _ _ _, .ok ms, P' => P' = P ∧ ms = machines
  | .listMachines _ _ _, .error _, P' => P' = P
  | .getSecret _ _, _, P' => P' = P
  | .delete _ _, _, _ => True
  | .deleteInterface _ _, _, _ => True

/-- Calls that change nothing. -/
def Reads : Op → Prop
  | .get _ _ | .list _ _ | .listMembers _ | .listMachines _ _ _ | .getSecret _ _ => True
  | _ => False

/-- The machines are there when they are asked for. -/
def Heard : (op : Op) → op.Reply → Prop
  | .listMachines _ _ _, r => ∃ ms, r = .ok ms
  | _, _ => True

section Replies

variable {machines : List CloudscaleMachine} {P P' : Project} {c : CloudscaleCluster}

theorem ProjectAnswers.unchanged {op : Op} {r : op.Reply} (h : ProjectAnswers machines P op r P')
    (hread : Reads op) : P' = P := by
  cases op with
  | get k id => cases r <;> exact h.1
  | list k tags =>
      cases r with
      | ok xs => exact h.1
      | error e => exact h
  | listMembers p =>
      cases r with
      | ok ms => exact h.1
      | error e => exact h
  | listMachines ns name cp =>
      cases r with
      | ok ms => exact h.1
      | error e => exact h
  | getSecret ns name => exact h
  | create | delete | createMember | updateMember | deleteMember | createInterface
  | deleteInterface | updateFloatingIP => exact hread.elim

theorem Project.ne_empty (P : Project) {k : Kind} {id : String} {x : k.Resource}
    (h : P.found k id = some x) : id ≠ "" := by
  rintro rfl
  rw [P.named k] at h
  cases h

/-- One resource has grown, and all else is as it was. -/
theorem builds_of_one {k : Kind} {id : String} {x x' : k.Resource} (hx : P.found k id = some x)
    (hx' : P'.found k id = some x') (hext : GrowsInto x x')
    (hothers : ∀ k' id', (k' = k → id' ≠ id) → P'.found k' id' = P.found k' id')
    (hmembers : P'.members = P.members) : Builds P P' := by
  refine ⟨fun k' id' y hy => ?_, hmembers⟩
  by_cases hhere : k' = k ∧ id' = id
  · obtain ⟨rfl, rfl⟩ := hhere
    obtain rfl : x = y := Option.some.inj (hx.symm.trans hy)
    exact ⟨x', hx', hext⟩
  · exact ⟨y, (hothers k' id' fun hk hid => hhere ⟨hk, hid⟩).trans hy, .refl y⟩

theorem extends_attach {x : Router} {i : RouterInterface}
    (hnew : ∀ j ∈ x.interfaces, j.network ≠ i.network ∧ j.uuid ≠ i.uuid) :
    GrowsInto (k := .router) x { x with interfaces := x.interfaces ++ [i] } := by
  refine ⟨[i], x.status, rfl, fun j hj i' hi' => ?_⟩
  rw [List.mem_singleton.mp hj]
  exact ⟨(hnew i' hi').1.symm, (hnew i' hi').2.symm⟩

theorem Attached.builds {id : String} {req : CreateInterfaceRequest} {i : RouterInterface}
    (h : Attached P id req i P') : Builds P P' := by
  obtain ⟨x, hx, hnew, hx'⟩ := h.there
  exact builds_of_one hx hx' (extends_attach hnew) h.others h.members

theorem Retargeted.builds {ip : String} {req : FloatingIPUpdateRequest}
    (h : Retargeted P ip req P') : Builds P P' := by
  obtain ⟨f, hf, hf'⟩ := h.there
  refine builds_of_one hf hf' ?_ h.others h.members
  unfold retarget
  split <;> exact ⟨_, _, rfl⟩

theorem Grows.of_found (h : P'.found = P.found) : Grows P P' := by
  intro k id x hx
  exact ⟨x, h ▸ hx, .refl x⟩

/-! ## The two contracts -/

/-- A pass that works on the project. -/
def works (machines : List CloudscaleMachine) : Contract Project Op Op.Reply where
  inv _ := True
  rely P P' := P' = P
  guard _ _ := True
  answer P op r P' := ProjectAnswers machines P op r P' ∧ Heard op r

/-- A pass that only looks. -/
def looks (machines : List CloudscaleMachine) : Contract Project Op Op.Reply where
  inv _ := True
  rely P P' := P' = P
  guard _ op := Reads op
  answer := ProjectAnswers machines

variable {α β : Type}

/-- What is proved of a pass that works holds of its runs. -/
theorem works_runs {m : ClusterM α} {Q : α → CloudscaleCluster → Project → Prop} {a : α}
    {c' : CloudscaleCluster} {tr : List (Interaction.Program.Event Op Op.Reply)}
    (hwp : (works machines).returns Q m c P) (hrun : (m.exec c).Runs tr (.ok a, c'))
    (hacc : Accepted (ProjectAnswers machines) P tr P') (hheard : ∀ e ∈ tr, Heard e.op e.reply) :
    Q a c' P' :=
  (Interaction.Program.accepted_of_wp (C := works machines) (G := fun _ => True) (fun _ => rfl)
    (fun _ _ _ _ _ _ _ => trivial) (fun _ _ _ => trivial) hrun
      (accepted_and.mpr ⟨hacc, hheard⟩) trivial hwp).1 a rfl

/-- A step that ends well, without a requeue, ends in `Q`. -/
def Ends (Q : CloudscaleCluster → Project → Prop) (result : Result) (c : CloudscaleCluster)
    (P : Project) : Prop :=
  result.isZero = true → Q c P

/-- A step that asks for a requeue has not ended. -/
theorem ends_late {Q : CloudscaleCluster → Project → Prop} {result : Result}
    (h : result.isZero = false) :
    (works machines).returns (Ends Q) (pure result : ClusterM Result) c P := by
  rw [returns_pure, Ends, h]
  rintro ⟨⟩

section Rules

variable {k : Kind} {Q : α → CloudscaleCluster → Project → Prop}

/-- The rule for a call. -/
theorem works_call {op : Op} {f : op.Reply → ClusterM α}
    (hf : ∀ r P', ProjectAnswers machines P op r P' → Heard op r →
      (works machines).returns Q (f r) c P') :
    (works machines).returns Q (Proc.perform op >>= f) c P := by
  rw [returns_bind]
  rintro P₁ rfl -
  refine ⟨trivial, ?_⟩
  rintro r P' hans - _ ⟨⟩
  exact hf r P' hans.1 hans.2

/-- The rule for a read: the reply tells what there is. -/
theorem works_read {op : Op} {f : op.Reply → ClusterM α} (hread : Reads op)
    (hf : ∀ r, ProjectAnswers machines P op r P → Heard op r →
      (works machines).returns Q (f r) c P) :
    (works machines).returns Q (Proc.perform op >>= f) c P := by
  refine works_call fun r P' hans hheard => ?_
  obtain rfl := hans.unchanged hread
  exact hf r hans hheard

/-- The rule for `createResource`: what it returns has been made. -/
theorem works_create {req : k.Request} {what : String} {requeueAfter : Nat}
    {f : Except Result k.Resource → ClusterM α}
    (hmade : ∀ x P', Adds P req x P' → (works machines).returns Q (f (.ok x)) c P')
    (hlate : ∀ P', (works machines).returns Q (f (.error { requeueAfter })) c P') :
    (works machines).returns Q (createResource k req what requeueAfter >>= f) c P := by
  rw [createResource, bind_assoc]
  refine works_call fun r P' hans _ => ?_
  cases r with
  | ok x => exact hmade x P' hans
  | error e =>
      dsimp only
      split
      · exact hlate P'
      · exact returns_fail _

/-- The rule for a lookup by tags: what it returns is there. -/
theorem works_adopt {name : String} {tags : TagMap} {f : Option k.Resource × String → ClusterM α}
    (hthere : ∀ x, P.found k (uuidOf x) = some x →
      (works machines).returns Q (f (some x, uuidOf x)) c P)
    (hnone : (works machines).returns Q (f (none, "")) c P) :
    (works machines).returns Q (adoptByTags k name tags >>= f) c P := by
  rw [adoptByTags, bind_assoc]
  refine works_read trivial fun r hans _ => ?_
  cases r with
  | error e => exact returns_fail _
  | ok xs =>
      cases xs with
      | nil => exact hnone
      | cons x rest =>
          cases rest with
          | nil => exact hthere x ((hans.2.2 x).mp List.mem_cons_self).1
          | cons y rest => exact returns_fail _

/-- The rule for `ensureResource`: what it returns is there. -/
theorem works_ensure {current name : String} {tags : TagMap}
    {f : Option k.Resource × String → ClusterM α}
    (hthere : ∀ x, P.found k (uuidOf x) = some x → uuidOf x ≠ "" →
      (works machines).returns Q (f (some x, uuidOf x)) c P)
    (hnone : (works machines).returns Q (f (none, "")) c P) :
    (works machines).returns Q (ensureResource k current name tags >>= f) c P := by
  have hadopt : (works machines).returns Q (adoptByTags k name tags >>= f) c P :=
    works_adopt (fun x hx => hthere x hx (P.ne_empty hx)) hnone
  rw [ensureResource]
  split
  · rw [bind_assoc]
    refine works_read trivial fun r hans _ => ?_
    cases r with
    | ok x =>
        obtain rfl := P.keyed _ _ _ hans.2
        exact hthere x hans.2 (P.ne_empty hans.2)
    | error e =>
        -- deleted behind our back: the tags decide
        dsimp only
        split
        · exact hadopt
        · exact returns_fail _
  · exact hadopt

end Rules

/-! ## Passes that only look -/

/-- The same object, with other conditions perhaps. -/
def Still (c c' : CloudscaleCluster) : Prop :=
  ∃ conditions, c' = { c with status := { c.status with conditions } }

theorem Still.refl (c : CloudscaleCluster) : Still c c := ⟨_, rfl⟩

theorem Still.trans {c c' c'' : CloudscaleCluster} (h : Still c c') (h' : Still c' c'') :
    Still c c'' := by
  obtain ⟨conditions, rfl⟩ := h
  obtain ⟨conditions', rfl⟩ := h'
  exact ⟨conditions', rfl⟩

theorem Still.setCondition {c' : CloudscaleCluster} (h : Still c c') (t : ConditionType)
    (status : ConditionStatus) (reason : Reason) (message : String) :
    Still c (setCondition t status reason message c') :=
  h.trans ⟨_, rfl⟩

/-- Nothing has happened, to the object or to the project. -/
def Rests (c : CloudscaleCluster) (P : Project) (c' : CloudscaleCluster) (P' : Project) : Prop :=
  Still c c' ∧ P' = P

theorem looks_read {f : CloudscaleCluster → ClusterM α}
    (hf : ∀ conditions, (looks machines).Preserves (Rests c P) (f { c with
      status := { c.status with conditions } })) :
    (looks machines).Preserves (Rests c P) (Proc.read >>= f) := by
  refine .read ?_
  rintro _ _ hinv ⟨⟨conditions, rfl⟩, rfl⟩
  exact hf conditions _ _ hinv ⟨⟨conditions, rfl⟩, rfl⟩

/-- The rule for a write that writes what is there already. -/
theorem looks_same {g : CloudscaleCluster → CloudscaleCluster} (hg : ∀ conditions,
      g { c with status := { c.status with conditions } } =
        { c with status := { c.status with conditions } }) :
    (looks machines).Preserves (Rests c P) (Proc.update g : ClusterM Unit) := by
  refine .update ?_
  rintro _ _ ⟨⟨conditions, rfl⟩, rfl⟩
  exact ⟨⟨conditions, hg conditions⟩, rfl⟩

/-- The rule for a read: the reply tells what there is. -/
theorem looks_perform {op : Op} {Q : Except GoError op.Reply → CloudscaleCluster → Project → Prop}
    (hread : Reads op) (hQ : ∀ r, ProjectAnswers machines P op r P → Q (.ok r) c P) :
    (looks machines).wpc Q (Proc.perform op) c P := by
  rw [wpc_perform]
  rintro P₁ rfl -
  refine ⟨hread, fun r P₂ hans _ => ?_⟩
  obtain rfl := hans.unchanged hread
  exact hQ r hans

theorem looks_call {op : Op} {f : op.Reply → ClusterM α} (hread : Reads op)
    (hf : ∀ r, ProjectAnswers machines P op r P → (looks machines).Preserves (Rests c P) (f r)) :
    (looks machines).Preserves (Rests c P) (Proc.perform op >>= f) := by
  rintro c' P' - ⟨hstill, rfl⟩
  rw [wpc_bind]
  exact looks_perform hread fun r hans => hf r hans c' _ trivial ⟨hstill, rfl⟩

/-- A recorded resource that is there is the one that is found. -/
theorem looks_ensure {k : Kind} {current name : String} {tags : TagMap} {x : k.Resource}
    {f : Option k.Resource × String → ClusterM α} (hx : P.found k current = some x)
    (hf : (looks machines).Preserves (Rests c P) (f (some x, current))) :
    (looks machines).Preserves (Rests c P) (ensureResource k current name tags >>= f) := by
  rw [ensureResource, if_pos (P.ne_empty hx), bind_assoc]
  refine looks_call trivial fun r hans => ?_
  cases r with
  | ok y =>
      obtain rfl : y = x := Option.some.inj (hans.2.symm.trans hx)
      exact hf
  | error e =>
      have hnot : isNotFound e = false := by
        rw [Bool.eq_false_iff]
        intro hnf
        rw [hans.2 hnf] at hx
        cases hx
      simp only [hnot, Bool.false_eq_true, if_false]
      exact .fail _

end Replies

end Capcs.Steady
