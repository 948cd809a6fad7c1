import Capcs.Controller.LoadBalancer
import Capcs.Interaction.Contract
import Mathlib.Data.List.Nodup
import Mathlib.Data.List.Perm.Basic

/-!
# Capcs.Members.Pool — a load balancer pool and the calls on it

The world of `reconcileLBMembers`: the members of one pool, and the list of machines. A call may
fail before or after it took effect. `Pool.deleted` only remembers which members were deleted.

`Shape` describes a pool while the two loops work on it, in terms of the members that were listed
and the part of the desired members dealt with so far: one lemma for each thing a loop can do.
-/

namespace Capcs.Members

open Cloudscale Controller

/-! ## The pool -/

structure Pool where
  members : List LoadBalancerPoolMember
  /-- The members deleted so far. -/
  deleted : List String := []

/-- The UUIDs of the members. -/
def Pool.ids (w : Pool) : List String := w.members.map (·.uuid)

/-- A member as requested is added. -/
structure Added (w : Pool) (req : LoadBalancerPoolMemberRequest) (m : LoadBalancerPoolMember)
    (w' : Pool) : Prop where
  fresh : m.uuid ∉ w.ids
  name : m.name = req.name
  address : m.address = req.address
  members : w'.members = w.members ++ [m]
  deleted : w'.deleted = w.deleted

/-- A member with another address, if it is the one that is meant. -/
def moveTo (id address : String) (m : LoadBalancerPoolMember) : LoadBalancerPoolMember :=
  if m.uuid = id then { m with address } else m

/-- A member gets another address. -/
def Pool.move (w : Pool) (id address : String) : Pool :=
  { w with members := w.members.map (moveTo id address) }

/-- A member is removed. -/
def Pool.drop (w : Pool) (id : String) : Pool :=
  { members := w.members.filter fun m => m.uuid ≠ id, deleted := w.deleted ++ [id] }

/-- How the pool and the Kubernetes API answer. A call that fails may have taken effect. -/
def PoolAnswers (pool : String) (machines : List CloudscaleMachine) (w : Pool) :
    (op : Op) → op.Reply → Pool → Prop
  | .listMembers p, r, w' => w' = w ∧ (p = pool → ∀ ms, r = .ok ms → ms.Perm w.members)
  | .createMember p req, .ok m, w' => if p = pool then Added w req m w' else w' = w
  | .createMember p req, .error _, w' => w' = w ∨ p = pool ∧ ∃ m, Added w req m w'
  | .updateMember p id req, .ok _, w' => w' = if p = pool then w.move id req.address else w
  | .updateMember p id req, .error _, w' => w' = w ∨ p = pool ∧ w' = w.move id req.address
  | .deleteMember p id, .ok _, w' => w' = if p = pool then w.drop id else w
  | .deleteMember p id, .error _, w' => w' = w ∨ p = pool ∧ w' = w.drop id
  | .listMachines _ _ controlPlane, r, w' =>
    w' = w ∧ (controlPlane = true → ∀ ms, r = .ok ms → ms = machines)
  | _, _, w' => w' = w

theorem moveTo_uuid (id address : String) (m : LoadBalancerPoolMember) :
    (moveTo id address m).uuid = m.uuid := by
  unfold moveTo
  split <;> rfl

theorem moveTo_name (id address : String) (m : LoadBalancerPoolMember) :
    (moveTo id address m).name = m.name := by
  unfold moveTo
  split <;> rfl

theorem Pool.move_ids (w : Pool) (id address : String) : (w.move id address).ids = w.ids := by
  simp only [Pool.ids, Pool.move, List.map_map]
  exact List.map_congr_left fun m _ => moveTo_uuid id address m

theorem Pool.drop_ids (w : Pool) (id : String) : (w.drop id).ids = w.ids.filter (· ≠ id) := by
  simp only [Pool.ids, Pool.drop, List.filter_map]
  rfl

theorem Added.ids {w w' : Pool} {req : LoadBalancerPoolMemberRequest} {m : LoadBalancerPoolMember}
    (h : Added w req m w') : w'.ids = w.ids ++ [m.uuid] := by
  simp [Pool.ids, h.members]

theorem Added.nodup {w w' : Pool} {req : LoadBalancerPoolMemberRequest} {m : LoadBalancerPoolMember}
    (h : Added w req m w') (hw : w.ids.Nodup) : w'.ids.Nodup := by
  rw [h.ids, List.nodup_append]
  refine ⟨hw, List.nodup_singleton _, ?_⟩
  intro a ha b hb hab
  rw [List.mem_singleton.mp hb] at hab
  exact h.fresh (hab ▸ ha)

/-- What a call can do to the pool. -/
theorem PoolAnswers.effect {pool : String} {machines : List CloudscaleMachine} {w w' : Pool}
    {op : Op} {r : op.Reply} (h : PoolAnswers pool machines w op r w') :
    w' = w ∨ (∃ req m, Added w req m w') ∨ (∃ id address, w' = w.move id address) ∨
      ∃ id, op = .deleteMember pool id ∧ w' = w.drop id := by
  unfold PoolAnswers at h
  split at h
  · exact .inl h.1
  · split at h
    · exact .inr (.inl ⟨_, _, h⟩)
    · exact .inl h
  · exact h.imp id fun ⟨_, m, h⟩ => .inl ⟨_, m, h⟩
  · split at h
    · exact .inr (.inr (.inl ⟨_, _, h⟩))
    · exact .inl h
  · exact h.imp id fun ⟨_, h⟩ => .inr (.inl ⟨_, _, h⟩)
  · split at h
    · next heq => exact .inr (.inr (.inr ⟨_, by rw [heq], h⟩))
    · exact .inl h
  · exact h.imp id fun ⟨heq, h⟩ => .inr (.inr ⟨_, by rw [heq], h⟩)
  · exact .inl h.1
  · exact .inl h

/-- Members keep having distinct UUIDs. -/
theorem PoolAnswers.nodup {pool : String} {machines : List CloudscaleMachine} {w w' : Pool}
    {op : Op} {r : op.Reply} (h : PoolAnswers pool machines w op r w') (hw : w.ids.Nodup) :
    w'.ids.Nodup := by
  rcases h.effect with rfl | ⟨_, _, hadd⟩ | ⟨id, address, rfl⟩ | ⟨id, -, rfl⟩
  · exact hw
  · exact hadd.nodup hw
  · rw [Pool.move_ids]
    exact hw
  · rw [Pool.drop_ids]
    exact hw.filter _

/-- A member stays, with its name, unless it is deleted. -/
theorem PoolAnswers.stays {pool : String} {machines : List CloudscaleMachine} {w w' : Pool}
    {op : Op} {r : op.Reply} {id name : String} (h : PoolAnswers pool machines w op r w')
    (hop : op ≠ .deleteMember pool id) (hm : ∃ m ∈ w.members, m.uuid = id ∧ m.name = name) :
    ∃ m ∈ w'.members, m.uuid = id ∧ m.name = name := by
  obtain ⟨m, hm, huuid, hname⟩ := hm
  rcases h.effect with rfl | ⟨_, _, hadd⟩ | ⟨id', address, rfl⟩ | ⟨id', heq, rfl⟩
  · exact ⟨m, hm, huuid, hname⟩
  · exact ⟨m, hadd.members ▸ List.mem_append_left _ hm, huuid, hname⟩
  · refine ⟨moveTo id' address m, List.mem_map_of_mem hm, ?_, ?_⟩
    · rw [moveTo_uuid, huuid]
    · rw [moveTo_name, hname]
  · refine ⟨m, List.mem_filter.mpr ⟨hm, decide_eq_true fun hid => hop ?_⟩, huuid, hname⟩
    rw [heq, ← hid, huuid]

/-- A pool that can be run. A create in `lost` takes effect and reports a timeout, and `others`
answers what is not about members. -/
def servePool (pool : String) (machines : List CloudscaleMachine) (lost : Bool)
    (others : (op : Op) → op.Reply) : Interaction.Program.Service Pool Op Op.Reply := fun w op =>
  match op with
  | .listMembers p => (.ok (if p = pool then w.members else []), w)
  | .createMember p req =>
    let m : LoadBalancerPoolMember :=
      { uuid := "member-" ++ req.name, name := req.name, address := req.address }
    if p = pool ∧ m.uuid ∉ w.ids then
      (if lost then .error (.timeout "") else .ok m, { w with members := w.members ++ [m] })
    else (.error (.other ""), w)
  | .updateMember p id req => (.ok (), if p = pool then w.move id req.address else w)
  | .deleteMember p id => (.ok (), if p = pool then w.drop id else w)
  | .listMachines _ _ _ => (.ok machines, w)
  | op => (others op, w)

theorem servePool_answers (pool : String) (machines : List CloudscaleMachine) (lost : Bool)
    (others : (op : Op) → op.Reply) (w : Pool) (op : Op) :
    PoolAnswers pool machines w op (servePool pool machines lost others w op).1
      (servePool pool machines lost others w op).2 := by
  cases op with
  | listMembers p =>
      refine ⟨rfl, ?_⟩
      rintro rfl ms ⟨⟩
      rw [if_pos rfl]
  | createMember p req =>
      simp only [servePool]
      split
      · next h =>
        have hadd : Added w req { uuid := "member-" ++ req.name, name := req.name
                                  address := req.address }
            { w with members := w.members ++ [{ uuid := "member-" ++ req.name, name := req.name
                                                address := req.address }] } :=
          ⟨h.2, rfl, rfl, rfl, rfl⟩
        -- with a lost reply the member is there all the same
        cases lost with
        | true => exact .inr ⟨h.1, _, hadd⟩
        | false =>
            simp only [PoolAnswers, Bool.false_eq_true, if_false, if_pos h.1]
            exact hadd
      · exact .inl rfl
  | updateMember | deleteMember => rfl
  | listMachines =>
      refine ⟨rfl, ?_⟩
      rintro _ ms ⟨⟩
      rfl
  | _ => rfl

theorem servePool_executes {α : Type} (pool : String) (machines : List CloudscaleMachine)
    (lost : Bool) (others : (op : Op) → op.Reply) (p : Interaction.Program Op Op.Reply α)
    (w : Pool) :
    p.Executes (PoolAnswers pool machines) w (p.drive (servePool pool machines lost others) w).1
      (p.drive (servePool pool machines lost others) w).2 :=
  Interaction.Program.executes_drive (fun _ _ _ => true)
    (fun w op _ => servePool_answers pool machines lost others w op) p w
    (Interaction.Program.served_of_forall (fun _ _ _ => rfl) p w)

/-- The contract of a step over a pool. -/
def poolCalls (pool : String) (machines : List CloudscaleMachine) :
    Interaction.Contract Pool Op Op.Reply where
  inv w := w.ids.Nodup
  rely w w' := w' = w
  guard _ _ := True
  answer := PoolAnswers pool machines

/-! ## The shape of a pool while it is worked on -/

/-- A listed member with the address that is desired for its name, if there is one. -/
def moved (desired : List LoadBalancerPoolMemberRequest) (m : LoadBalancerPoolMember) :
    LoadBalancerPoolMember :=
  match desired.find? fun d => d.name = m.name with
  | some d => { m with address := d.address }
  | none => m

/-- There is no listed member of that name. -/
def missing (current : List LoadBalancerPoolMember) (d : LoadBalancerPoolMemberRequest) : Bool :=
  (currentByName current d.name).isNone

/-- The pool while it is worked on: `done` are the desired members dealt with so far, `created` the
members made for them, and `gone` the UUIDs of the listed members that were deleted. -/
structure Shape (current : List LoadBalancerPoolMember) (done : List LoadBalancerPoolMemberRequest)
    (created : List LoadBalancerPoolMember) (gone : List String) (w : Pool) : Prop where
  members : w.members.Perm ((current.filter fun m => m.uuid ∉ gone).map (moved done) ++ created)
  made : created.map (fun m => (m.name, m.address)) =
    (done.filter (missing current)).map fun d => (d.name, d.address)
  distinct : (current.map (·.uuid) ++ created.map (·.uuid)).Nodup
  deleted : w.deleted = gone

variable {current created : List LoadBalancerPoolMember} {done : List LoadBalancerPoolMemberRequest}
  {d : LoadBalancerPoolMemberRequest} {gone : List String} {w w' : Pool}
    {m : LoadBalancerPoolMember}

@[simp] theorem moved_uuid : (moved done m).uuid = m.uuid := by
  unfold moved
  split <;> rfl

@[simp] theorem moved_name : (moved done m).name = m.name := by
  unfold moved
  split <;> rfl

@[simp] theorem moved_nil : moved [] m = m := rfl

theorem moved_other (h : d.name ≠ m.name) : moved (done ++ [d]) m = moved done m := by
  rw [moved, moved, List.find?_append]
  cases done.find? fun d => d.name = m.name with
  | some _ => rfl
  | none => simp [h]

/-- The first desired member of a name decides. -/
theorem moved_here (h : d.name = m.name) (hnew : ∀ d' ∈ done, d'.name ≠ d.name) :
    moved (done ++ [d]) m = { m with address := d.address } ∧ moved done m = m := by
  have hnone : (done.find? fun d' => d'.name = m.name) = none := by
    rw [List.find?_eq_none]
    intro d' hd'
    simpa [← h] using hnew d' hd'
  constructor
  · rw [moved, List.find?_append, hnone]
    simp [h]
  · rw [moved, hnone]

theorem mem_of_currentByName {name : String} (h : currentByName current name = some m) :
    m ∈ current ∧ m.name = name := by
  obtain ⟨hmem, hname⟩ := List.mem_filter.mp (List.mem_of_getLast? h)
  exact ⟨hmem, by simpa using hname⟩

theorem missing_iff : missing current d = true ↔ ∀ m ∈ current, m.name ≠ d.name := by
  rw [missing, Option.isNone_iff_eq_none, currentByName, List.getLast?_eq_none_iff,
    List.filter_eq_nil_iff]
  simp

theorem shape_start (hids : (current.map (·.uuid)).Nodup) (hperm : current.Perm w.members)
    (hdel : w.deleted = []) : Shape current [] [] [] w where
  members := by
    have hsame : current.map (moved []) = current :=
      (List.map_congr_left fun _ _ => moved_nil).trans (List.map_id _)
    simpa [hsame] using hperm.symm
  made := rfl
  distinct := by simpa using hids
  deleted := hdel

theorem filter_nil_gone (current : List LoadBalancerPoolMember) :
    (current.filter fun m => m.uuid ∉ ([] : List String)) = current := by simp

/-- A member is created. -/
theorem Shape.create (h : Shape current done created [] w) (hmissing : missing current d = true)
    (hadd : Added w d m w') : Shape current (done ++ [d]) (created ++ [m]) [] w' where
  members := by
    -- the name is new, so no other member is moved
    have hsame : current.map (moved (done ++ [d])) = current.map (moved done) := by
      refine List.map_congr_left fun x hx => moved_other fun heq => ?_
      exact missing_iff.mp hmissing x hx heq.symm
    rw [hadd.members, filter_nil_gone, hsame, ← List.append_assoc]
    have hperm := h.members
    rw [filter_nil_gone] at hperm
    exact hperm.append_right [m]
  made := by
    rw [List.map_append, h.made, List.filter_append, List.map_append]
    simp [hmissing, hadd.name, hadd.address]
  distinct := by
    rw [List.map_append, ← List.append_assoc, List.nodup_append]
    refine ⟨h.distinct, List.nodup_singleton _, ?_⟩
    intro a ha b hb hab
    have hids : w.ids.Perm (current.map (·.uuid) ++ created.map (·.uuid)) := by
      have hperm := h.members.map (·.uuid)
      rw [filter_nil_gone, List.map_append, List.map_map] at hperm
      have hcomp : (fun m : LoadBalancerPoolMember => m.uuid) ∘ moved done = (·.uuid) := by
        funext x
        simp
      rwa [hcomp] at hperm
    obtain rfl : b = m.uuid := by simpa using hb
    exact hadd.fresh (hids.mem_iff.mpr (hab ▸ ha))
  deleted := hadd.deleted.trans h.deleted

/-- What the loop does for a member that is there, pointwise. -/
theorem moved_snoc (hnames : (current.map (·.name)).Nodup) (hids : (current.map (·.uuid)).Nodup)
    (hm : m ∈ current) (hname : m.name = d.name) (hnew : ∀ d' ∈ done, d'.name ≠ d.name) :
    current.map (moved (done ++ [d])) = (current.map (moved done)).map
      (moveTo m.uuid d.address) := by
  rw [List.map_map]
  refine List.map_congr_left fun x hx => ?_
  simp only [Function.comp_apply, moveTo, moved_uuid]
  by_cases hxm : x = m
  · subst hxm
    obtain ⟨hafter, hbefore⟩ := moved_here hname.symm hnew
    rw [if_pos rfl, hafter, hbefore]
  · have huuid : x.uuid ≠ m.uuid := fun heq => hxm (List.inj_on_of_nodup_map hids hx hm heq)
    rw [if_neg huuid]
    refine moved_other fun heq => hxm ?_
    exact List.inj_on_of_nodup_map hnames hx hm (heq.symm.trans hname.symm)

theorem Shape.made_there (h : Shape current done created [] w) (hm : m ∈ current)
    (hname : m.name = d.name) : created.map (fun m => (m.name, m.address)) =
      ((done ++ [d]).filter (missing current)).map fun d => (d.name, d.address) := by
  have hthere : missing current d = false := by
    rw [Bool.eq_false_iff]
    intro hmissing
    exact missing_iff.mp hmissing m hm hname
  rw [h.made, List.filter_append]
  simp [hthere]

/-- A member is moved. -/
theorem Shape.move (h : Shape current done created [] w) (hnames : (current.map (·.name)).Nodup)
    (hm : m ∈ current) (hname : m.name = d.name) (hnew : ∀ d' ∈ done, d'.name ≠ d.name) :
    Shape current (done ++ [d]) created [] (w.move m.uuid d.address) where
  members := by
    have hids : (current.map (·.uuid)).Nodup := (List.nodup_append.mp h.distinct).1
    have hperm := h.members.map (moveTo m.uuid d.address)
    have hcreated : created.map (moveTo m.uuid d.address) = created := by
      refine (List.map_congr_left fun x hx => ?_).trans (List.map_id _)
      rw [moveTo, if_neg]
      · rfl
      · intro heq
        exact (List.nodup_append.mp h.distinct).2.2 _ (List.mem_map_of_mem hm) _
          (List.mem_map_of_mem hx) heq.symm
    rw [filter_nil_gone] at hperm ⊢
    rw [List.map_append, hcreated, ← moved_snoc hnames hids hm hname hnew] at hperm
    exact hperm
  made := h.made_there hm hname
  distinct := h.distinct
  deleted := h.deleted

/-- A member is where it should be. -/
theorem Shape.same (h : Shape current done created [] w) (hnames : (current.map (·.name)).Nodup)
    (hm : m ∈ current) (hname : m.name = d.name) (hnew : ∀ d' ∈ done, d'.name ≠ d.name)
    (haddr : m.address = d.address) : Shape current (done ++ [d]) created [] w where
  members := by
    have hids : (current.map (·.uuid)).Nodup := (List.nodup_append.mp h.distinct).1
    have hsame : current.map (moved (done ++ [d])) = current.map (moved done) := by
      rw [moved_snoc hnames hids hm hname hnew]
      refine (List.map_congr_left fun x hx => ?_).trans (List.map_id _)
      obtain ⟨y, hy, rfl⟩ := List.mem_map.mp hx
      simp only [moveTo, moved_uuid, id_eq]
      split
      · next huuid =>
        obtain rfl := List.inj_on_of_nodup_map hids hy hm huuid
        rw [(moved_here hname.symm hnew).2, ← haddr]
      · rfl
    have hperm := h.members
    rw [filter_nil_gone] at hperm ⊢
    rw [hsame]
    exact hperm
  made := h.made_there hm hname
  distinct := h.distinct
  deleted := h.deleted

/-- A listed member is deleted. -/
theorem Shape.drop (h : Shape current done created gone w) (hm : m ∈ current) :
    Shape current done created (gone ++ [m.uuid]) (w.drop m.uuid) where
  members := by
    have hperm := h.members.filter fun x => x.uuid ≠ m.uuid
    have hcreated : (created.filter fun x => x.uuid ≠ m.uuid) = created := by
      refine List.filter_eq_self.mpr fun x hx => ?_
      have hne := (List.nodup_append.mp h.distinct).2.2 _ (List.mem_map_of_mem hm) _
        (List.mem_map_of_mem hx)
      simpa using hne.symm
    have hcurrent : ((current.filter fun x => x.uuid ∉ gone).map (moved done)).filter
        (fun x => x.uuid ≠ m.uuid) = (current.filter fun x => x.uuid ∉ gone ++ [m.uuid]).map
          (moved done) := by
      rw [List.filter_map, List.filter_filter]
      congr 1
      refine List.filter_congr fun x _ => ?_
      simp [Bool.and_comm]
    rw [List.filter_append, hcreated, hcurrent] at hperm
    exact hperm
  made := h.made
  distinct := h.distinct
  deleted := by rw [Pool.drop, h.deleted]

/-! ## What is kept -/

/-- A listed member that was not deleted is still there, possibly with another address. -/
def Survives (current : List LoadBalancerPoolMember) (w : Pool) : Prop :=
  ∀ m ∈ current, m.uuid ∈ w.deleted ∨ ∃ m' ∈ w.members, m'.uuid = m.uuid ∧ m'.name = m.name

theorem Shape.kept (h : Shape current done created gone w) : Survives current w := by
  intro m hm
  by_cases hgone : m.uuid ∈ gone
  · exact .inl (h.deleted ▸ hgone)
  · refine .inr ⟨moved done m, h.members.mem_iff.mpr ?_, moved_uuid, moved_name⟩
    refine List.mem_append_left _ (List.mem_map_of_mem ?_)
    exact List.mem_filter.mpr ⟨hm, by simpa using hgone⟩

theorem Survives.added (h : Survives current w) (hadd : Added w d m w') : Survives current w' := by
  intro x hx
  rcases h x hx with hdel | ⟨y, hy, hsame⟩
  · exact .inl (hadd.deleted ▸ hdel)
  · exact .inr ⟨y, by rw [hadd.members]; exact List.mem_append_left _ hy, hsame⟩

theorem Survives.move (h : Survives current w) (id address : String) :
    Survives current (w.move id address) := by
  intro x hx
  rcases h x hx with hdel | ⟨y, hy, hid, hname⟩
  · exact .inl hdel
  · exact .inr ⟨moveTo id address y, List.mem_map_of_mem hy, (moveTo_uuid ..).trans hid,
      (moveTo_name ..).trans hname⟩

end Capcs.Members
