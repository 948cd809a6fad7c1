import Capcs.Controller.Frames
import Capcs.Members.Converge
import Capcs.Webhook.Admission

/-!
# Capcs.Members.Tracking — the recorded member IDs and the pool

`status.loadBalancerMemberIDs` is written only when a create or a delete of a member returns
success; it is never compared with the pool. Whether it is right after `reconcileLBMembers`
therefore depends on what it was before. The condition on the state before is `TrackedBefore`, and
it is met in runs that see one pool and lose no reply.
-/

namespace Capcs.Members

open Cloudscale Controller
open Interaction (Proc Frame)
open Interaction.Contract

variable {pool : String} {machines : List CloudscaleMachine}
  {c c' : CloudscaleCluster} {w w' : Pool} {current created : List LoadBalancerPoolMember}
  {desired : List LoadBalancerPoolMemberRequest} {ids : List String}

/-! ## One step -/

/-- The recorded IDs are the UUIDs of the members, each once. -/
def Tracks (c : CloudscaleCluster) (w : Pool) : Prop := c.status.loadBalancerMemberIDs.Perm w.ids

/-- Some machine of the name of the member has an address on the member subnet. -/
def wantedBy (c : CloudscaleCluster) (machines : List CloudscaleMachine)
    (m : LoadBalancerPoolMember) :
    Bool :=
  machines.any fun machine => machine.metadata.name = m.name ∧
    ((memberNet c).bind fun net => memberAddress net machine).isSome

/-- Not the UUID of a member that goes. -/
def Stays (c : CloudscaleCluster) (machines : List CloudscaleMachine) (w : Pool) (id : String) :
    Prop :=
  id ∉ (w.members.filter fun m => !wantedBy c machines m).map (·.uuid)

instance : DecidablePred (Stays c machines w) := fun id =>
  inferInstanceAs (Decidable (id ∉ _))

/-- Apart from the members that go, the recorded IDs are those of the pool. -/
def TrackedBefore (c : CloudscaleCluster) (machines : List CloudscaleMachine) (w : Pool) : Prop :=
  (c.status.loadBalancerMemberIDs.filter fun id => Stays c machines w id).Perm
    (w.ids.filter fun id => Stays c machines w id)

theorem Desires.wantedBy {net : Net.Prefix} (h : Desires c machines desired net)
    (m : LoadBalancerPoolMember) : wantedBy c machines m = !extra desired m := by
  rw [Bool.eq_iff_iff, Bool.not_eq_true', h.extra_iff m, Members.wantedBy, h.known]
  simp

/-- The record and the pool while the loops work: `before` are the UUIDs in the pool at the start,
`made` those of the members created since and `gone` those of the members deleted. -/
structure MemberRecord (pool : String) (ids before made gone : List String) (c : CloudscaleCluster)
    (w : Pool) : Prop where
  pool : c.status.loadBalancerPoolID = pool
  ids : c.status.loadBalancerMemberIDs = (ids ++ made).filter fun id => id ∉ gone
  members : w.ids.Perm ((before ++ made).filter fun id => id ∉ gone)

variable {before made gone : List String}

theorem MemberRecord.create {req : LoadBalancerPoolMemberRequest} {m : LoadBalancerPoolMember}
    (h : MemberRecord pool ids before made [] c w) (hadd : Added w req m w') :
    MemberRecord pool ids before (made ++ [m.uuid]) []
      (withMemberIDs (c.status.loadBalancerMemberIDs ++ [m.uuid]) c) w' where
  pool := h.pool
  ids := by
    show c.status.loadBalancerMemberIDs ++ [m.uuid] = _
    rw [h.ids]
    simp
  members := by
    rw [hadd.ids]
    have hperm := h.members.append_right [m.uuid]
    simpa using hperm

theorem MemberRecord.drop (h : MemberRecord pool ids before made gone c w) (id : String) :
    MemberRecord pool ids before made (gone ++ [id])
      (withMemberIDs (c.status.loadBalancerMemberIDs.filter (· ≠ id)) c) (w.drop id) where
  pool := h.pool
  ids := by
    show c.status.loadBalancerMemberIDs.filter (· ≠ id) = _
    rw [h.ids, List.filter_filter]
    refine List.filter_congr fun x _ => ?_
    simp [Bool.and_comm]
  members := by
    rw [Pool.drop_ids]
    have hperm := h.members.filter (· ≠ id)
    rw [List.filter_filter] at hperm
    refine hperm.trans (List.Perm.of_eq (List.filter_congr fun x _ => ?_))
    simp [Bool.and_comm]

theorem addMembers_recorded (todo : List LoadBalancerPoolMemberRequest) :
    ∀ {made c w}, MemberRecord pool ids before made [] c w →
      (poolCalls pool machines).wpc (fun out c' w' => ∀ r, out = .ok r → r.isZero = true →
        ∃ made', MemberRecord pool ids before made' [] c' w') (addMembers current todo) c w := by
  induction todo with
  | nil => exact fun h _ _ _ => ⟨_, h⟩
  | cons d rest ih =>
      intro made c w h
      rw [addMembers]
      split
      · refine wpc_seq (wpc_wrapped (createLoadBalancerMember_spec h.pool d) ?_) ?_
        · exact fun _ _ _ hout => ⟨hout.1, by simp⟩
        rintro out c₁ w₁ ⟨-, hzero⟩
        cases out with
        | error err => simp
        | ok r =>
            simp only [after_ok, wpc_ite]
            split
            · next hr =>
              obtain ⟨m, hadd, rfl⟩ := hzero r rfl hr
              exact ih (h.create hadd)
            · next hr =>
              rintro _ ⟨⟩ hr'
              exact absurd hr' hr
      · next m hsome =>
        rw [updateMoved]
        split
        · refine wpc_seq (wpc_wrapped (updateLoadBalancerMember_spec h.pool m.uuid d.address) ?_) ?_
          · exact fun _ _ _ hout => ⟨hout.1, by simp⟩
          rintro out c₁ w₁ ⟨-, hok⟩
          cases out with
          | error err => simp
          | ok _ =>
              obtain ⟨rfl, rfl⟩ := hok rfl
              -- a move changes no ID
              exact ih ⟨h.pool, h.ids, by rw [Pool.move_ids]; exact h.members⟩
        · rw [wpc_bind, wpc_pure, after_ok]
          exact ih h

theorem removeMembers_recorded (desired : List LoadBalancerPoolMemberRequest)
    (todo : List LoadBalancerPoolMember) :
    ∀ {gone c w}, MemberRecord pool ids before made gone c w →
      (poolCalls pool machines).wpc (fun out c' w' => out = .ok () →
        MemberRecord pool ids before made
          (gone ++ (todo.filter (extra desired)).map (·.uuid)) c' w')
        (removeMembers desired todo) c w := by
  induction todo with
  | nil => exact fun h _ => by simpa using h
  | cons m rest ih =>
      intro gone c w h
      rw [removeMembers, deleteExtra]
      -- an extra member leaves both the pool and the record
      by_cases hextra : extra desired m = true
      · rw [if_pos (by simpa [extra] using hextra)]
        refine wpc_seq (wpc_wrapped (deleteLoadBalancerMember_spec h.pool m) ?_) ?_
        · exact fun _ _ _ hout => ⟨hout.1, by simp⟩
        rintro out c₁ w₁ ⟨-, hok⟩
        cases out with
        | error err => simp
        | ok _ =>
            obtain ⟨rfl, rfl⟩ := hok rfl
            rw [after_ok]
            refine wpc_imp (ih (h.drop m.uuid)) fun _ _ _ hend hout => ?_
            simpa [hextra] using hend hout
      · rw [if_neg (by simpa [extra] using hextra), wpc_bind, wpc_pure, after_ok]
        refine wpc_imp (ih h) fun _ _ _ hend hout => ?_
        simpa [hextra] using hend hout

/-- What is recorded and what is there after the step. -/
theorem reconcileLBMembers_recorded (cluster : Cluster) :
    (poolCalls c.status.loadBalancerPoolID machines).wpc (fun out c' w' => ∀ r, out = .ok r →
      r.isZero = true → ∃ current desired net made, current.Perm w.members ∧
        Desires c machines desired net ∧
        MemberRecord c.status.loadBalancerPoolID c.status.loadBalancerMemberIDs w.ids made
          (removed desired current) c' w')
      (reconcileLBMembers cluster) c w := by
  rw [reconcileLBMembers, wpc_read_bind, wpc_bind]
  refine wpc_perform.mpr ?_
  rintro w₁ rfl -
  refine ⟨trivial, ?_⟩
  rintro r w₂ ⟨rfl, hlist⟩ -
  rw [after_ok]
  cases r with
  | error err => simp
  | ok current =>
      have hperm : current.Perm w₂.members := hlist rfl current rfl
      refine wpc_seq (wpc_wrapped (getDesiredLoadBalancerMembers_spec cluster) ?_) ?_
      · exact fun _ _ _ hout => ⟨hout.1, hout.2.1, by simp⟩
      rintro out c₁ w₁ ⟨rfl, rfl, hdesired⟩
      cases out with
      | error err => simp
      | ok desired =>
          obtain ⟨net, hdes⟩ := hdesired desired rfl
          have hstart : MemberRecord c₁.status.loadBalancerPoolID
              c₁.status.loadBalancerMemberIDs w₁.ids [] [] c₁ w₁ := ⟨rfl, by simp, by simp⟩
          rw [after_ok]
          refine wpc_seq (addMembers_recorded desired hstart) ?_
          intro out c₂ w₂ hadd
          cases out with
          | error err => simp
          | ok r =>
              simp only [after_ok, wpc_ite]
              split
              · next hr =>
                -- the loop that removes starts from what the other one has recorded
                obtain ⟨made, hmade⟩ := hadd r rfl hr
                refine wpc_seq (removeMembers_recorded desired current hmade) ?_
                intro out c₃ w₃ hend
                cases out with
                | error err => simp
                | ok _ =>
                    exact fun _ _ _ => ⟨current, desired, net, made, hperm, hdes, hend rfl⟩
              · next hr =>
                rintro _ ⟨⟩ hr'
                exact absurd hr' hr

theorem MemberRecord.tracks_iff {net : Net.Prefix}
    (h : MemberRecord pool c.status.loadBalancerMemberIDs w.ids made
      (removed desired current) c' w')
    (hperm : current.Perm w.members) (hdes : Desires c machines desired net) :
    Tracks c' w' ↔ TrackedBefore c machines w := by
  have hstays (id : String) : Stays c machines w id ↔ id ∉ removed desired current := by
    have hunwanted : (fun m => !Members.wantedBy c machines m) = extra desired := by
      funext m
      rw [hdes.wantedBy, Bool.not_not]
    rw [Stays, hunwanted]
    exact not_congr ((hperm.filter _).map _).mem_iff.symm
  -- the members created in the step are on both sides
  rw [Tracks, h.ids, h.members.congr_right, List.filter_append, List.filter_append,
    List.perm_append_right_iff, TrackedBefore]
  simp only [hstays]

/-! ## Runs that lose no reply -/

/-- What a run must be spared: creates and deletes of members that take effect and fail, and more
than one pool. -/
def Spared (pool : String) (w : Pool) : (op : Op) → op.Reply → Pool → Prop
  | .createMember _ _, .error _, w' => w' = w
  | .deleteMember _ _, .error _, w' => w' = w
  | .get .pool _, .error err, _ => isNotFound err = false
  | .list .pool _, .ok ps, _ => ∀ p ∈ ps, p.uuid = pool
  | .create .pool _, .ok p, _ => p.uuid = pool
  | _, _, _ => True

/-- The contract of a step in such a run. -/
def spared (pool : String) (machines : List CloudscaleMachine) :
    Interaction.Contract Pool Op Op.Reply where
  inv _ := True
  rely w w' := w' = w
  guard _ _ := True
  answer w op r w' := PoolAnswers pool machines w op r w' ∧ Spared pool w op r w'

/-- The recorded IDs are right, and the recorded pool ID is in `G`. -/
def TracksIn (G : String → Prop) (c : CloudscaleCluster) (w : Pool) : Prop :=
  G c.status.loadBalancerPoolID ∧ Tracks c w

/-- No pool is recorded yet, or the one of the run. -/
def OnlyPool (pool id : String) : Prop := id = "" ∨ id = pool

variable {G : String → Prop}

/-- Requests that write members. -/
def WritesMembers : Op → Prop
  | .createMember _ _ => True
  | .updateMember _ _ _ => True
  | .deleteMember _ _ => True
  | _ => False

theorem PoolAnswers.same {op : Op} {r : op.Reply} (h : PoolAnswers pool machines w op r w')
    (hop : ¬ WritesMembers op) : w' = w := by
  cases op with
  | createMember | updateMember | deleteMember => exact absurd trivial hop
  | listMembers | listMachines => exact h.1
  | _ => exact h

theorem perform_quiet {op : Op} (hop : ¬ WritesMembers op) :
    (spared pool machines).Preserves (TracksIn G) (Proc.perform op : ClusterM op.Reply) := by
  intro c w _ h
  refine wpc_perform.mpr ?_
  rintro w₁ rfl -
  refine ⟨trivial, fun r w₂ hans _ => ?_⟩
  rwa [hans.1.same hop]

/-- What neither writes members nor records a pool or members. -/
theorem quiet {β α : Type} {f : CloudscaleCluster → β} {P : Op → Prop} {m : ClusterM α}
    (hm : Frame f P m)
    (hf : ∀ c c', f c' = f c → c'.status.loadBalancerPoolID = c.status.loadBalancerPoolID ∧
      c'.status.loadBalancerMemberIDs = c.status.loadBalancerMemberIDs)
    (hP : ∀ op, P op → ¬ WritesMembers op) : (spared pool machines).Preserves (TracksIn G) m := by
  refine hm.preserves ?_ ?_ ?_
  · intro c c' w hsame h
    obtain ⟨hpool, hids⟩ := hf c c' hsame
    exact ⟨hpool ▸ h.1, by rw [Tracks, hids]; exact h.2⟩
  · rintro c w _ h rfl -
    exact h
  · intro c w op hop h _
    refine ⟨trivial, fun r w' hans _ => ?_⟩
    rwa [hans.1.same (hP op hop)]

theorem lookups_quiet {α : Type} {m : ClusterM α} (hm : Frame id IsLookup m) :
    (spared pool machines).Preserves (TracksIn G) m := by
  refine quiet hm ?_ ?_
  · rintro c _ rfl
    exact ⟨rfl, rfl⟩
  · intro op hop hwrites
    cases op <;> trivial

theorem reconcileOwned_quiet {k : Kind} {what : String} {getID : CloudscaleClusterStatus → String}
    {setID : String → CloudscaleClusterStatus → CloudscaleClusterStatus}
    {request : CloudscaleCluster → Except GoError k.Request}
    (hset : ∀ new s, (setID new s).loadBalancerPoolID = s.loadBalancerPoolID ∧
      (setID new s).loadBalancerMemberIDs = s.loadBalancerMemberIDs) :
    (spared pool machines).Preserves (TracksIn G) (reconcileOwned k what getID setID request) := by
  refine reconcileOwned_preserves lookups_quiet (fun _ => perform_quiet id) fun new c w h => ?_
  obtain ⟨hpool, hids⟩ := hset new c.status
  exact ⟨hpool.symm ▸ h.1, by rw [Tracks]; exact hids.symm ▸ h.2⟩

/-! ## The pool -/

/-- The pool that is found is the one of the run. -/
theorem adoptByTags_pool {what : String} {tags : TagMap} :
    (spared pool machines).wpc (fun out c' w' => c' = c ∧ w' = w ∧
      ∀ found, out = .ok found → OnlyPool pool found.2)
      (adoptByTags .pool what tags : ClusterM _) c w := by
  rw [adoptByTags, wpc_bind]
  refine wpc_perform.mpr ?_
  rintro w₁ rfl -
  refine ⟨trivial, fun r w₂ hans _ => ?_⟩
  obtain rfl := hans.1.same id
  -- as the source's switch: a failed listing, no match, one match, several
  rcases r with err | _ | ⟨p, _ | _⟩
  · exact ⟨rfl, rfl, by simp⟩
  · refine ⟨rfl, rfl, ?_⟩
    rintro _ ⟨⟩
    exact .inl rfl
  · refine ⟨rfl, rfl, ?_⟩
    rintro _ ⟨⟩
    exact .inr (hans.2 p (by simp))
  · exact ⟨rfl, rfl, by simp⟩

theorem ensureResource_pool {what : String} {tags : TagMap} {current : String}
    (hcur : OnlyPool pool current) :
    (spared pool machines).wpc (fun out c' w' => c' = c ∧ w' = w ∧
      ∀ found, out = .ok found → OnlyPool pool found.2)
      (ensureResource .pool current what tags : ClusterM _) c w := by
  rw [ensureResource, wpc_ite]
  split
  · rw [wpc_bind]
    refine wpc_perform.mpr ?_
    rintro w₁ rfl -
    refine ⟨trivial, fun r w₂ hans _ => ?_⟩
    obtain rfl := hans.1.same id
    cases r with
    | ok p =>
        refine ⟨rfl, rfl, ?_⟩
        rintro _ ⟨⟩
        exact hcur
    | error err =>
        have hnot : isNotFound err = false := hans.2
        simp only [after_ok, hnot, Bool.false_eq_true, if_false]
        exact ⟨rfl, rfl, by simp⟩
  · exact adoptByTags_pool

theorem createResource_pool (req : Kind.pool.Request) (what : String) :
    (spared pool machines).wpc (fun out c' w' => c' = c ∧ w' = w ∧
      (∀ p, out = .ok (.ok p) → p.uuid = pool) ∧
      ∀ result, out = .ok (.error result) → result.isZero = false)
      (createResource .pool req what 5 : ClusterM _) c w := by
  rw [createResource, wpc_bind]
  refine wpc_perform.mpr ?_
  rintro w₁ rfl -
  refine ⟨trivial, fun r w₂ hans _ => ?_⟩
  obtain rfl := hans.1.same id
  match r, hans.2 with
  | .ok p, hp =>
      refine ⟨rfl, rfl, ?_, by simp⟩
      rintro _ ⟨⟩
      exact hp
  | .error err, _ =>
      simp only [after_ok, wpc_ite]
      split
      · refine ⟨rfl, rfl, by simp, ?_⟩
        rintro _ ⟨⟩
        rfl
      · exact ⟨rfl, rfl, by simp, by simp⟩

theorem reconcileLBPool_tracks (h : TracksIn (OnlyPool pool) c w) :
    (spared pool machines).wpc (fun out c' w' => TracksIn (OnlyPool pool) c' w' ∧
      ∀ r, out = .ok r → r.isZero = true → TracksIn (· = pool) c' w')
      reconcileLBPool c w := by
  rw [reconcileLBPool, reconcileOwned, wpc_read_bind]
  refine wpc_seq (ensureResource_pool h.1) ?_
  rintro out c₁ w₁ ⟨rfl, rfl, hfound⟩
  cases out with
  | error err => exact ⟨h, by simp⟩
  | ok found =>
      have hfound := hfound found rfl
      rw [after_ok, wpc_update_bind, wpc_ite]
      split
      · next hne =>
        have hpool : found.2 = pool := hfound.resolve_left hne
        exact ⟨⟨hfound, h.2⟩, fun _ _ _ => ⟨hpool, h.2⟩⟩
      · rw [wpc_read_bind]
        refine wpc_seq (createResource_pool _ _) ?_
        rintro out c₂ w₂ ⟨rfl, rfl, hp, hresult⟩
        rcases out with err | result | p
        · exact ⟨⟨hfound, h.2⟩, by simp⟩
        -- a create that timed out asks to come back
        · refine ⟨⟨hfound, h.2⟩, ?_⟩
          rintro _ ⟨⟩ hzero
          rw [hresult result rfl] at hzero
          cases hzero
        · exact ⟨⟨.inr (hp p rfl), h.2⟩, fun _ _ _ => ⟨hp p rfl, h.2⟩⟩

/-! ## The members -/

theorem createLoadBalancerMember_tracks (req : LoadBalancerPoolMemberRequest) :
    (spared pool machines).Preserves (TracksIn (· = pool)) (createLoadBalancerMember req) := by
  refine .read fun c w _ h => ?_
  rw [wpc_bind]
  refine wpc_perform.mpr ?_
  rintro w₁ rfl -
  refine ⟨trivial, fun r w₂ hans _ => ?_⟩
  cases r with
  | ok m =>
      have hadd : Added w₁ req m w₂ := by
        have hmember := hans.1
        simp only [PoolAnswers, h.1, if_true] at hmember
        exact hmember
      refine ⟨h.1, ?_⟩
      rw [Tracks, hadd.ids]
      exact h.2.append_right _
  | error err =>
      obtain rfl : w₂ = w₁ := hans.2
      simp only [after_ok, wpc_ite]
      split
      · exact h
      · exact h

theorem updateLoadBalancerMember_tracks (id address : String) :
    (spared pool machines).Preserves (TracksIn (· = pool))
      (updateLoadBalancerMember id address) := by
  refine .read fun c w _ h => ?_
  rw [wpc_bind]
  refine wpc_perform.mpr ?_
  rintro w₁ rfl -
  refine ⟨trivial, fun r w₂ hans _ => ?_⟩
  have hids : w₂.ids = w₁.ids := by
    match r, hans.1 with
    | .ok _, hmove =>
        simp only [PoolAnswers, h.1, if_true] at hmove
        rw [hmove, Pool.move_ids]
    | .error _, .inl hsame => rw [hsame]
    | .error _, .inr ⟨_, hmove⟩ => rw [hmove, Pool.move_ids]
  have h' : TracksIn (· = pool) c w₂ := ⟨h.1, by rw [Tracks, hids]; exact h.2⟩
  cases r <;> exact h'

theorem deleteLoadBalancerMember_tracks (m : LoadBalancerPoolMember) :
    (spared pool machines).Preserves (TracksIn (· = pool)) (deleteLoadBalancerMember m) := by
  refine .read fun c w _ h => ?_
  rw [wpc_bind]
  refine wpc_perform.mpr ?_
  rintro w₁ rfl -
  refine ⟨trivial, fun r w₂ hans _ => ?_⟩
  cases r with
  | ok _ =>
      have hdrop : w₂ = w₁.drop m.uuid := by
        have hmember := hans.1
        simp only [PoolAnswers, h.1, if_true] at hmember
        exact hmember
      refine ⟨h.1, ?_⟩
      rw [Tracks, hdrop, Pool.drop_ids]
      exact h.2.filter _
  | error err =>
      obtain rfl : w₂ = w₁ := hans.2
      exact h

theorem reads_quiet {α : Type} {m : ClusterM α} (hm : Frame id ReadsMembers m) :
    (spared pool machines).Preserves (TracksIn G) m := by
  refine quiet hm ?_ ?_
  · rintro c _ rfl
    exact ⟨rfl, rfl⟩
  · intro op hop hwrites
    cases op <;> trivial

theorem reconcileLBMembers_tracks (cluster : Cluster) :
    (spared pool machines).Preserves (TracksIn (· = pool)) (reconcileLBMembers cluster) :=
  reconcileLBMembers_preserves (fun _ => perform_quiet id)
    (reads_quiet (getDesiredLoadBalancerMembers_frame cluster)) createLoadBalancerMember_tracks
    updateLoadBalancerMember_tracks deleteLoadBalancerMember_tracks

/-! ## The pass -/

theorem TracksIn.onlyPool (h : TracksIn (· = pool) c w) : TracksIn (OnlyPool pool) c w :=
  ⟨.inr h.1, h.2⟩

theorem reconcileLBChildren_tracks (cluster : Cluster) :
    (spared pool machines).Preserves (TracksIn (OnlyPool pool)) (reconcileLBChildren cluster) := by
  -- the pool step ends with the ID of the pool recorded, and the other steps keep it
  have hkept {m : ClusterM Result} (hm : (spared pool machines).Preserves (TracksIn (· = pool)) m)
      (c : CloudscaleCluster) (w : Pool) (hinv : True) (h : TracksIn (· = pool) c w) :
      (spared pool machines).wpc (EndsIn (·.isZero = true) (TracksIn (OnlyPool pool))
        (TracksIn (· = pool))) m c w :=
    wpc_imp (hm c w hinv h) fun _ _ _ hin => ⟨hin.onlyPool, fun _ _ _ => hin⟩
  intro c w hinv h
  refine wpc_imp (reconcileLBChildren_endsIn _ _ _ (fun _ _ _ => reconcileLBPool_tracks)
    (hkept (reconcileOwned_quiet fun _ _ => ⟨rfl, rfl⟩))
    (hkept (reconcileOwned_quiet fun _ _ => ⟨rfl, rfl⟩))
    (hkept (reconcileLBMembers_tracks cluster)) c w hinv h) fun _ _ _ hend => hend.1

theorem reconcileLoadBalancer_tracks (cluster : Cluster) :
    (spared pool machines).Preserves (TracksIn (OnlyPool pool)) (reconcileLoadBalancer cluster) :=
  reconcileLoadBalancer_preserves (fun _ _ _ _ _ => id) (reconcileOwned_quiet fun _ _ => ⟨rfl, rfl⟩)
    (fun _ => perform_quiet id) (fun _ => reads_quiet (degradedMessage_frame _))
    (reconcileLBChildren_tracks cluster)

theorem WritesMembers.part {op : Op} (h : WritesMembers op) : partOf op = .loadBalancer := by
  cases op with
  | createMember | updateMember | deleteMember => rfl
  | _ => exact h.elim

theorem reconcileNormal_tracks (cluster : Cluster) :
    (spared pool machines).Preserves (TracksIn (OnlyPool pool)) (reconcileNormal cluster) := by
  have hpart {part : Part} (hne : part ≠ .loadBalancer) (op : Op) (hop : About part op) :
      ¬ WritesMembers op := by
    intro hwrites
    rcases hop with hop | hop
    · exact hne (hop.symm.trans hwrites.part)
    · cases hop.symm.trans hwrites.part
  refine reconcileNormal_preserves
    (quiet (reconcileNetwork_frame cluster) (fun _ _ hsame => ?_) (hpart (by decide)))
    (quiet (reconcileRouters_frame cluster) (fun _ _ hsame => ?_) (hpart (by decide)))
    (reconcileLoadBalancer_tracks cluster)
    (quiet (reconcileFloatingIP_frame cluster) (fun _ _ hsame => ?_) (hpart (by decide)))
    (fun lb => quiet (finishNormal_frame cluster lb) (fun _ _ hsame => ?_) fun _ h => h.elim)
    fun _ _ => id
  all_goals exact ⟨congrArg (·.status.loadBalancerPoolID) hsame,
    congrArg (·.status.loadBalancerMemberIDs) hsame⟩

/-! ## Runs -/

/-- Passes over one pool, with any machines in each of them and with no reply lost. Between two
passes everything but the status may change. -/
inductive SparedRun (pool : String) : CloudscaleCluster → Pool → Prop
  | start {c : CloudscaleCluster} {w : Pool} (hpool : OnlyPool pool c.status.loadBalancerPoolID)
      (h : Tracks c w) : SparedRun pool c w
  | pass {cluster : Cluster} {machines : List CloudscaleMachine} {c c₁ c' : CloudscaleCluster}
      {w w' : Pool} {out : Except GoError Result} (h : SparedRun pool c w)
      (hstatus : c₁.status = c.status)
      (hrun : ((reconcileNormal cluster).exec c₁).Executes (spared pool machines).answer w
        (out, c') w') : SparedRun pool c' w'

theorem SparedRun.tracks (h : SparedRun pool c w) : TracksIn (OnlyPool pool) c w := by
  induction h with
  | start hpool h => exact ⟨hpool, h⟩
  | @pass cluster machines c c₁ c' w w' out _ hstatus hrun ih =>
      have hstart : TracksIn (OnlyPool pool) c₁ w := by
        rw [TracksIn, Tracks, hstatus]
        exact ih
      exact (executes_of_wp (C := spared pool machines) (fun _ => rfl)
        (fun _ _ _ _ _ _ _ => trivial) hrun trivial
        (reconcileNormal_tracks cluster c₁ w trivial hstart)).2

/-- After a `reconcileLBMembers` that is done, the recorded IDs are those of the pool exactly when
they were so before, apart from the members that go. -/
theorem reconcileLBMembers_tracks_iff {cluster : Cluster} {r : Result} (hids : w.ids.Nodup)
    (hrun : ((reconcileLBMembers cluster).exec c).Executes
      (PoolAnswers c.status.loadBalancerPoolID machines) w (.ok r, c') w')
    (hzero : r.isZero = true) :
    Tracks c' w' ↔ TrackedBefore c machines w := by
  obtain ⟨current, desired, net, made, hperm, hdes, hend⟩ :=
    executes_reconcileLBMembers (reconcileLBMembers_recorded cluster) hids hrun r rfl hzero
  exact hend.tracks_iff hperm hdes

/-- So it is for every step that is done, and in runs that see one pool and lose no reply the
recorded IDs are always those of the pool. -/
theorem memberIDs_iff {cluster : Cluster} {r : Result} (hids : w.ids.Nodup)
    (hrun : ((reconcileLBMembers cluster).exec c).Executes
      (PoolAnswers c.status.loadBalancerPoolID machines) w (.ok r, c') w')
    (hzero : r.isZero = true) :
    (Tracks c' w' ↔ TrackedBefore c machines w) ∧
      ∀ pool c w, SparedRun pool c w → Tracks c w :=
  ⟨reconcileLBMembers_tracks_iff hids hrun hzero, fun _ _ _ h => h.tracks.2⟩

/-- The members of the stale pool, all recorded. -/
def recordedCluster : CloudscaleCluster := withMemberIDs ["3", "1", "2"] pooledCluster

/-- A project in which everything can be created and then is there. -/
def projectReply : (op : Op) → op.Reply
  | .get .network id => .ok { uuid := id, zone := "rma1" }
  | .get .subnet id => .ok { uuid := id, network := "n" }
  | .get .loadBalancer id =>
    .ok { uuid := id, status := loadBalancerRunningStatus, vipAddresses := ["192.0.2.1"] }
  | .get .pool id => .ok { uuid := id }
  | .get .listener id => .ok { uuid := id }
  | .get .healthMonitor id => .ok { uuid := id }
  | .create .network _ => .ok { uuid := "n", zone := "rma1" }
  | .create .subnet _ => .ok { uuid := "s", network := "n" }
  | .create .loadBalancer _ => .ok { uuid := "lb" }
  | .create .pool _ => .ok { uuid := "p" }
  | .create .listener _ => .ok { uuid := "l" }
  | .create .healthMonitor _ => .ok { uuid := "h" }
  | .list _ _ | .listMembers _ => .ok []
  | .get _ _ | .create _ _ | .delete _ _ | .createMember _ _ | .updateMember _ _ _
  | .deleteMember _ _ | .createInterface _ _ | .deleteInterface _ _ | .updateFloatingIP _ _ =>
    .error (.other "")
  | .listMachines _ _ _ | .getSecret _ _ => .error (.other "")

/-- The owner, before and after its control plane is up. -/
def ownerCluster (up : Bool) :
    Cluster := { name := "c", ns := "default", controlPlaneInitialized := up }

/-- A pass over a pool with the given machines. -/
def passOver (lost : Bool) (cluster : Cluster) (machines : List CloudscaleMachine)
    (others : (op : Op) → op.Reply) (c : CloudscaleCluster) (w : Pool) :
    (Except GoError Result × CloudscaleCluster) × Pool :=
  ((reconcileNormal cluster).exec c).drive (servePool "p" machines lost others) w

def IsPassOver (cluster : Cluster) (machines : List CloudscaleMachine) (c : CloudscaleCluster)
    (w : Pool) (pass : (Except GoError Result × CloudscaleCluster) × Pool) : Prop :=
  ((reconcileNormal cluster).exec c).Executes (PoolAnswers "p" machines) w pass.1 pass.2

theorem isPassOver_passOver (lost : Bool) (cluster : Cluster) (machines : List CloudscaleMachine)
    (others : (op : Op) → op.Reply) (c : CloudscaleCluster) (w : Pool) :
    IsPassOver cluster machines c w (passOver lost cluster machines others c w) :=
  servePool_executes ..

/-- If no create is lost, such a pass goes on with a run. -/
theorem SparedRun.passOver (h : SparedRun "p" c w) (cluster : Cluster) :
    SparedRun "p" (passOver false cluster machines projectReply c w).1.2
      (passOver false cluster machines projectReply c w).2 := by
  have hspared (w : Pool) (op : Op) : Spared "p" w op
      (servePool "p" machines false projectReply w op).1
      (servePool "p" machines false projectReply w op).2 := by
    cases op with
    | createMember p req =>
        simp only [servePool]
        split
        · trivial
        · rfl
    | get k id => cases k <;> trivial
    | list k tags => cases k <;> simp [servePool, projectReply, Spared]
    | create k req => cases k <;> trivial
    | _ => trivial
  have hpass : ((reconcileNormal cluster).exec c).Executes (spared "p" machines).answer w
      (Members.passOver false cluster machines projectReply c w).1
      (Members.passOver false cluster machines projectReply c w).2 :=
    Interaction.Program.executes_drive (fun _ _ _ => true)
      (fun w op _ => ⟨servePool_answers .., hspared w op⟩) _ _
      (Interaction.Program.served_of_forall (fun _ _ _ => rfl) _ _)
  exact .pass h rfl hpass

/-- The first pass over a new cluster, with one machine. -/
def addingPass (lost : Bool) : (Except GoError Result × CloudscaleCluster) × Pool :=
  passOver lost (ownerCluster true) [nodeAt "m" "10.0.0.5"] projectReply Webhook.storedCluster
    { members := [] }

/-- The members of the stale pool are recorded again after the step, and the one that a first pass
adds is recorded. -/
theorem memberIDs_iff_stale :
    Tracks (runMembers { name := "c", ns := "default" } recordedCluster newMachines stalePool).1.2
      (runMembers { name := "c", ns := "default" } recordedCluster newMachines stalePool).2 ∧
    (addingPass false).2.ids = ["member-m"] ∧ Tracks (addingPass false).1.2
      (addingPass false).2 := by
  have hrun := runMembers_executes { name := "c", ns := "default" } recordedCluster newMachines
    stalePool
  have hzero : (runMembers { name := "c", ns := "default" } recordedCluster newMachines
      stalePool).1.1 = .ok {} := by decide +kernel
  rw [hzero] at hrun
  have hbefore : TrackedBefore recordedCluster newMachines stalePool := by
    unfold TrackedBefore
    decide +kernel
  have hboth := memberIDs_iff (by decide) hrun rfl
  have hstart : SparedRun "p" Webhook.storedCluster { members := [] } := .start (.inl rfl) .nil
  have hfirst : SparedRun "p" (addingPass false).1.2 (addingPass false).2 := by
    unfold addingPass
    exact hstart.passOver (ownerCluster true)
  exact ⟨hboth.1.mpr hbefore, by decide +kernel, hboth.2 _ _ _ hfirst⟩

/-! ## A create that times out -/

/-- The pass after one in which the create of the member took effect and timed out. -/
def laterPass : (Except GoError Result × CloudscaleCluster) × Pool :=
  passOver false (ownerCluster true) [nodeAt "m" "10.0.0.5"] projectReply (addingPass true).1.2
    (addingPass true).2

/-- The later pass is done, the pool has its member, and no member is recorded. -/
theorem member_unrecorded :
    IsPassOver (ownerCluster true) [nodeAt "m" "10.0.0.5"] Webhook.storedCluster { members := [] }
      (addingPass true) ∧
    IsPassOver (ownerCluster true) [nodeAt "m" "10.0.0.5"] (addingPass true).1.2 (addingPass true).2
      laterPass ∧
    (addingPass true).1.1 = .ok { requeueAfter := 5 } ∧ laterPass.1.1 = .ok {} ∧
    laterPass.1.2.status.loadBalancerPoolID = "p" ∧ laterPass.2.ids = ["member-m"] ∧
    laterPass.1.2.status.loadBalancerMemberIDs = [] ∧ ¬ Tracks laterPass.1.2 laterPass.2 := by
  refine ⟨isPassOver_passOver .., isPassOver_passOver .., by decide +kernel, by decide +kernel,
    by decide +kernel, by decide +kernel, by decide +kernel, ?_⟩
  unfold Tracks
  decide +kernel

end Capcs.Members
