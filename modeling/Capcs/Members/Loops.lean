import Capcs.Members.Pool

/-!
# Capcs.Members.Loops — the two loops of reconcileLBMembers

What the loops do to the pool. Every outcome keeps the listed
members that are not to be removed (`SafeSoFar`); an outcome without a requeue or an
  error leaves the
pool in the `Shape` of all desired members.
-/

namespace Capcs.Members

open Cloudscale Controller
open Interaction.Contract

variable {pool : String} {machines : List CloudscaleMachine}
  {c c' : CloudscaleCluster} {w w' : Pool} {current created : List LoadBalancerPoolMember}
  {desired done : List LoadBalancerPoolMemberRequest} {gone : List String}

/-! ## Single calls -/

/-- The cluster with other member IDs. -/
def withMemberIDs (ids : List String) (c : CloudscaleCluster) : CloudscaleCluster :=
  { c with status := { c.status with loadBalancerMemberIDs := ids } }

theorem createLoadBalancerMember_spec (hpool : c.status.loadBalancerPoolID = pool)
    (req : LoadBalancerPoolMemberRequest) :
    (poolCalls pool machines).wpc (fun out c' w' => (w' = w ∨ ∃ m, Added w req m w') ∧
      ∀ r, out = .ok r → r.isZero = true → ∃ m, Added w req m w' ∧
        c' = withMemberIDs (c.status.loadBalancerMemberIDs ++ [m.uuid]) c)
      (createLoadBalancerMember req) c w := by
  rw [createLoadBalancerMember, wpc_read_bind, wpc_bind]
  refine wpc_perform.mpr ?_
  rintro w₁ rfl -
  refine ⟨trivial, fun r w₂ hans _ => ?_⟩
  cases r with
  | ok m =>
      have hadd : Added w₁ req m w₂ := by
        simp only [poolCalls, PoolAnswers, hpool, if_true] at hans
        exact hans
      refine ⟨.inr ⟨m, hadd⟩, ?_⟩
      exact fun _ _ _ => ⟨m, hadd, rfl⟩
  | error err =>
      -- the member may be in the pool all the same
      have hmaybe : w₂ = w₁ ∨ ∃ m, Added w₁ req m w₂ := hans.imp_right And.right
      simp only [after_ok, wpc_ite]
      split
      · refine ⟨hmaybe, ?_⟩
        rintro _ ⟨⟩ hzero
        simp [Result.isZero] at hzero
      · exact ⟨hmaybe, by simp⟩

theorem updateLoadBalancerMember_spec (hpool : c.status.loadBalancerPoolID = pool)
    (id address : String) :
    (poolCalls pool machines).wpc (fun out c' w' => (w' = w ∨ w' = w.move id address) ∧
      (out = .ok () → w' = w.move id address ∧ c' = c))
      (updateLoadBalancerMember id address) c w := by
  rw [updateLoadBalancerMember, wpc_read_bind, wpc_bind]
  refine wpc_perform.mpr ?_
  rintro w₁ rfl -
  refine ⟨trivial, fun r w₂ hans _ => ?_⟩
  cases r with
  | ok _ =>
      have hmove : w₂ = w₁.move id address := by
        simp only [poolCalls, PoolAnswers, hpool, if_true] at hans
        exact hans
      exact ⟨.inr hmove, fun _ => ⟨hmove, rfl⟩⟩
  | error err => exact ⟨hans.imp_right And.right, by simp⟩

theorem deleteLoadBalancerMember_spec (hpool : c.status.loadBalancerPoolID = pool)
    (m : LoadBalancerPoolMember) :
    (poolCalls pool machines).wpc (fun out c' w' => (w' = w ∨ w' = w.drop m.uuid) ∧
      (out = .ok () → w' = w.drop m.uuid ∧
        c' = withMemberIDs (c.status.loadBalancerMemberIDs.filter (· ≠ m.uuid)) c))
      (deleteLoadBalancerMember m) c w := by
  rw [deleteLoadBalancerMember, wpc_read_bind, wpc_bind]
  refine wpc_perform.mpr ?_
  rintro w₁ rfl -
  refine ⟨trivial, fun r w₂ hans _ => ?_⟩
  cases r with
  | ok _ =>
      have hdrop : w₂ = w₁.drop m.uuid := by
        simp only [poolCalls, PoolAnswers, hpool, if_true] at hans
        exact hans
      exact ⟨.inr hdrop, fun _ => ⟨hdrop, rfl⟩⟩
  | error err => exact ⟨hans.imp_right And.right, by simp⟩

/-! ## The first loop -/

/-- The outcome of the first loop. -/
theorem addMembers_spec (hnames : (current.map (·.name)).Nodup)
    (todo : List LoadBalancerPoolMemberRequest) :
    ∀ {done created c w}, c.status.loadBalancerPoolID = pool → Shape current done created [] w →
      ((done ++ todo).map (·.name)).Nodup →
      (poolCalls pool machines).wpc (fun out c' w' => Survives current w' ∧ w'.deleted = [] ∧
        ∀ r, out = .ok r → r.isZero = true → c'.status.loadBalancerPoolID = pool ∧
          ∃ created', Shape current (done ++ todo) created' [] w')
        (addMembers current todo) c w := by
  -- `done` has been gone through, and `Shape` says what the pool holds by then
  induction todo with
  | nil =>
      intro done created c w hpool h _
      refine ⟨h.kept, h.deleted, fun _ _ _ => ⟨hpool, created, ?_⟩⟩
      rw [List.append_nil]
      exact h
  | cons d rest ih =>
      intro done created c w hpool h hnodup
      have hsnoc : done ++ d :: rest = (done ++ [d]) ++ rest := by simp
      have hnew : ∀ d' ∈ done, d'.name ≠ d.name := by
        rw [List.map_append, List.nodup_append] at hnodup
        intro d' hd'
        exact hnodup.2.2 _ (List.mem_map_of_mem hd') _ (by simp)
      rw [hsnoc] at hnodup ⊢
      rw [addMembers]
      split
      · next hnone =>
        -- no member has the name: one is created
        have hmissing : missing current d = true := by rw [missing, hnone]; rfl
        refine wpc_seq (wpc_wrapped (createLoadBalancerMember_spec hpool d) ?_) ?_
        · exact fun _ _ _ hout => ⟨hout.1, by simp⟩
        · rintro out c₁ w₁ ⟨hmaybe, hzero⟩
          have hkept : Survives current w₁ ∧ w₁.deleted = [] := by
            rcases hmaybe with rfl | ⟨m, hadd⟩
            · exact ⟨h.kept, h.deleted⟩
            · exact ⟨h.kept.added hadd, hadd.deleted.trans h.deleted⟩
          cases out with
          | error err => exact ⟨hkept.1, hkept.2, by simp⟩
          | ok r =>
              simp only [after_ok, wpc_ite]
              split
              · next hr =>
                obtain ⟨m, hadd, rfl⟩ := hzero r rfl hr
                exact ih hpool (h.create hmissing hadd) hnodup
              · next hr =>
                refine ⟨hkept.1, hkept.2, ?_⟩
                rintro _ ⟨⟩ hr'
                exact absurd hr' hr
      · next m hsome =>
        -- one has it: it is moved if its address differs
        obtain ⟨hm, hname⟩ := mem_of_currentByName hsome
        rw [updateMoved]
        by_cases haddr : m.address = d.address
        · rw [if_neg (by simpa using haddr), wpc_bind, wpc_pure, after_ok]
          exact ih hpool (h.same hnames hm hname hnew haddr) hnodup
        · rw [if_pos haddr]
          refine wpc_seq (wpc_wrapped (updateLoadBalancerMember_spec hpool m.uuid d.address) ?_) ?_
          · exact fun _ _ _ hout => ⟨hout.1, by simp⟩
          · rintro out c₁ w₁ ⟨hmaybe, hok⟩
            have hkept : Survives current w₁ ∧ w₁.deleted = [] := by
              rcases hmaybe with rfl | rfl
              · exact ⟨h.kept, h.deleted⟩
              · exact ⟨h.kept.move _ _, h.deleted⟩
            cases out with
            | error err => exact ⟨hkept.1, hkept.2, by simp⟩
            | ok _ =>
                obtain ⟨rfl, rfl⟩ := hok rfl
                exact ih hpool (h.move hnames hm hname hnew) hnodup

/-! ## The second loop -/

/-- No desired member has that name. -/
def extra (desired : List LoadBalancerPoolMemberRequest) (m : LoadBalancerPoolMember) : Bool :=
  !desired.any fun d => d.name = m.name

/-- The pool while members are removed. -/
structure Removing (current : List LoadBalancerPoolMember)
    (desired : List LoadBalancerPoolMemberRequest) (created : List LoadBalancerPoolMember)
    (gone : List String) (w : Pool) : Prop where
  shape : Shape current desired created gone w
  undesired : ∀ id ∈ gone, ∃ m ∈ current, m.uuid = id ∧ extra desired m = true

/-- Whatever has happened, the listed members that are desired were not deleted, and those that
were not deleted are still there. -/
structure SafeSoFar (current : List LoadBalancerPoolMember)
    (desired : List LoadBalancerPoolMemberRequest) (w : Pool) : Prop where
  kept : Survives current w
  undesired : ∀ id ∈ w.deleted, ∃ m ∈ current, m.uuid = id ∧ extra desired m = true

theorem Removing.safe (h : Removing current desired created gone w) :
    SafeSoFar current desired w :=
  ⟨h.shape.kept, fun id hid => h.undesired id (h.shape.deleted ▸ hid)⟩

theorem Removing.drop {m : LoadBalancerPoolMember}
    (h : Removing current desired created gone w) (hm : m ∈ current)
    (hextra : extra desired m = true) :
    Removing current desired created (gone ++ [m.uuid]) (w.drop m.uuid) where
  shape := h.shape.drop hm
  undesired := by
    intro id hid
    rcases List.mem_append.mp hid with hid | hid
    · exact h.undesired id hid
    · exact ⟨m, hm, (List.mem_singleton.mp hid).symm, hextra⟩

/-- The outcome of the second loop. -/
theorem removeMembers_spec (todo : List LoadBalancerPoolMember) (htodo : todo ⊆ current) :
    ∀ {gone c w}, c.status.loadBalancerPoolID = pool → Removing current desired created gone w →
      (poolCalls pool machines).wpc (fun out _ w' => SafeSoFar current desired w' ∧
        (out = .ok () → Removing current desired created
          (gone ++ (todo.filter (extra desired)).map (·.uuid)) w'))
        (removeMembers desired todo) c w := by
  induction todo with
  | nil =>
      intro gone c w hpool h
      exact ⟨h.safe, fun _ => by simpa using h⟩
  | cons m rest ih =>
      intro gone c w hpool h
      have hm : m ∈ current := htodo List.mem_cons_self
      have hrest : rest ⊆ current := fun x hx => htodo (List.mem_cons_of_mem _ hx)
      rw [removeMembers, deleteExtra]
      by_cases hextra : extra desired m = true
      · rw [if_pos (by simpa [extra] using hextra)]
        refine wpc_seq (wpc_wrapped (deleteLoadBalancerMember_spec hpool m) ?_) ?_
        · exact fun _ _ _ hout => ⟨hout.1, by simp⟩
        · rintro out c₁ w₁ ⟨hmaybe, hok⟩
          cases out with
          | error err =>
              -- a delete that failed may have removed the member all the same
              refine ⟨?_, by simp⟩
              rcases hmaybe with rfl | rfl
              · exact h.safe
              · exact (h.drop hm hextra).safe
          | ok _ =>
              obtain ⟨rfl, rfl⟩ := hok rfl
              rw [after_ok]
              refine wpc_imp (ih hrest hpool (h.drop hm hextra)) ?_
              rintro out c₂ w₂ ⟨hsafe, hend⟩
              refine ⟨hsafe, fun hout => ?_⟩
              simpa [hextra] using hend hout
      · rw [if_neg (by simpa [extra] using hextra), wpc_bind, wpc_pure, after_ok]
        refine wpc_imp (ih hrest hpool h) ?_
        rintro out c₂ w₂ ⟨hsafe, hend⟩
        refine ⟨hsafe, fun hout => ?_⟩
        simpa [hextra] using hend hout

end Capcs.Members
