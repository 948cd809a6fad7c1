import Capcs.Cloudscale.World

/-!
# Capcs.Ownership.Invariant — who owns what in the cloud

The invariant that ties tags to creations, for any number of clusters working in
one project. A *slot* is a tag filter a cluster looks its resources up with; the
invariant says that whatever a slot selects was created for its cluster, that it
selects at most one resource, and that everything created is selected by a slot.

* `Inv` — the invariant of the world.
* `Guard` — what has to hold when a cluster issues a call.
* `Rely` — what a role may count on while others work.
* `inv_answers` — a guarded call keeps the first and stays within the second, for
  everybody else; `inv_remove`, `rely_remove` the same for deletions by anyone else.
-/

namespace Capcs.Ownership

open Cloudscale

variable {ι : Type}

/-- The tag filters each owner looks its resources up with. -/
abbrev Slots (ι : Type) := ι → Kind → TagMap → Prop

/-- One reconciler at work: whom it works for, the slots only it creates in,
whether it is the one that manages pool members, and the identifiers that the user
has put into the specs. -/
structure Role (ι : Type) where
  owner : ι
  turf : Kind → TagMap → Prop
  managesMembers : Prop
  names : Kind → String → Prop

variable {slot : Slots ι} {R : Role ι} {w : World ι} {k : Kind} {i : Ident} {m : Member}

/-- A recorded identifier: empty, or of a resource created for `o`. -/
def Own (w : World ι) (o : ι) (k : Kind) (id : String) : Prop := id = "" ∨ (o, k, id) ∈ w.created

/-- An identifier a role may use: of a resource created for its owner, or one that
the user has named. -/
def May (w : World ι) (R : Role ι) (k : Kind) (id : String) : Prop :=
  Own w R.owner k id ∨ R.names k id

/-- The invariant of the cloud. -/
structure Inv (slot : Slots ι) (w : World ι) : Prop where
  owned : ∀ o k t, slot o k t → ∀ i ∈ w.cloud k, matchesTags t i.tags → (o, k, i.uuid) ∈ w.created
  tagged : ∀ o k, ∀ i ∈ w.cloud k, (o, k, i.uuid) ∈ w.created →
    ∃ t, slot o k t ∧ matchesTags t i.tags
  unique : ∀ o k t, slot o k t → k ≠ .serverGroup → (w.listed k t).length ≤ 1
  members : ∀ o p, (o, .pool, p) ∈ w.created → ∀ name, (w.membersNamed p name).length ≤ 1
  issued : ∀ k, ∀ i ∈ w.cloud k, i.uuid ≠ "" ∧ (k, i.uuid) ∈ w.issued
  created_issued : ∀ o k u, (o, k, u) ∈ w.created → u ≠ "" ∧ (k, u) ∈ w.issued
  created_once : ∀ o o' k u, (o, k, u) ∈ w.created → (o', k, u) ∈ w.created → o = o'
  parent_issued : ∀ s ∈ w.cloud .subnet, (.network, s.parent) ∈ w.issued
  member_issued : ∀ m ∈ w.members, m.pool ≠ "" ∧ (.pool, m.pool) ∈ w.issued
  subnet_parent : ∀ o, ∀ s ∈ w.cloud .subnet, (o, .subnet, s.uuid) ∈ w.created →
    (o, .network, s.parent) ∈ w.created ∧ ¬ w.Gone .network s.parent

/-- What a call of a role must meet. A create goes into a slot of the role that
selects nothing yet, with tags no other slot selects; a delete names a resource
created for the role's owner. Resources are looked up by slots of the owner and by
identifiers the role may use, and interfaces are only taken off such routers. -/
def Guard (slot : Slots ι) (R : Role ι) (w : World ι) : Op → Prop
  | .create k req => ∃ t, slot R.owner k t ∧ matchesTags t (requestTags req) ∧
      (∀ o' t', slot o' k t' → matchesTags t' (requestTags req) → o' = R.owner ∧ t' = t) ∧
      (k ≠ .serverGroup → R.turf k t ∧ w.listed k t = []) ∧
      (k = .subnet → (R.owner, .network, (requestIdent req "").parent) ∈ w.created)
  | .delete k id => (R.owner, k, id) ∈ w.created
  | .get k id => k ≠ .serverGroup → May w R k id
  | .list k tags => slot R.owner k tags
  | .deleteInterface router _ => May w R .router router
  | .createMember pool req => R.managesMembers ∧ Own w R.owner .pool pool ∧
      w.membersNamed pool req.name = []
  | _ => True

/-- What a role may rely on: nothing it created is forgotten, its slots only lose
resources, and its pools only lose members. -/
structure Rely (R : Role ι) (w w' : World ι) : Prop where
  created : ∀ k u, (R.owner, k, u) ∈ w.created → (R.owner, k, u) ∈ w'.created
  listed : ∀ k t, R.turf k t → (w'.listed k t).Sublist (w.listed k t)
  members : R.managesMembers → ∀ p, (R.owner, .pool, p) ∈ w.created →
    ∀ name, (w'.membersNamed p name).Sublist (w.membersNamed p name)

namespace Rely

variable {a b c : World ι}

protected theorem refl (R : Role ι) (w : World ι) : Rely R w w :=
  ⟨fun _ _ h => h, fun _ _ _ => .refl _, fun _ _ _ _ => .refl _⟩

protected theorem trans (h : Rely R a b) (h' : Rely R b c) : Rely R a c where
  created k u hu := h'.created k u (h.created k u hu)
  listed k t ht := (h'.listed k t ht).trans (h.listed k t ht)
  members hm p hp name :=
    (h'.members hm p (h.created _ _ hp) name).trans (h.members hm p hp name)

end Rely

/-! ## Adding a resource -/

/-- A slot whose filter does not match the new tags selects what it did before. -/
theorem listed_insert_of_not {k k' : Kind} {t : TagMap} (h : k' = k → ¬ matchesTags t i.tags) :
    (w.insert k i).listed k' t = w.listed k' t := by
  by_cases hk : k' = k
  · simp [World.listed, World.insert, hk, h hk]
  · simp [World.listed, World.insert, hk]

theorem mem_cloud_insert {k k' : Kind} {i j : Ident} (h : j ∈ (w.insert k i).cloud k') :
    j ∈ w.cloud k' ∨ (k' = k ∧ j = i) := by
  by_cases hk : k' = k
  · simp only [World.insert, hk, if_true, List.mem_append, List.mem_singleton] at h
    exact h.imp (fun hj => hk ▸ hj) fun hj => ⟨hk, hj⟩
  · simp only [World.insert, hk, if_false] at h
    exact .inl h

theorem not_gone_insert {k k' : Kind} {id : String} (h : ¬ w.Gone k' id) :
    ¬ (w.insert k i).Gone k' id := by
  intro hg
  refine h fun j hj => hg j ?_
  simp only [World.insert]
  split
  · exact List.mem_append_left _ hj
  · exact hj

/-! ## Creating -/

@[simp] theorem cloud_create (w : World ι) (o : ι) (k k' : Kind) (i : Ident) :
    (w.create o k i).cloud k' = if k' = k then w.cloud k' ++ [i] else w.cloud k' := rfl

@[simp] theorem created_create (w : World ι) (o : ι) (k : Kind) (i : Ident) :
    (w.create o k i).created = (o, k, i.uuid) :: w.created := rfl

@[simp] theorem members_create (w : World ι) (o : ι) (k : Kind) (i : Ident) :
    (w.create o k i).members = w.members := rfl

theorem mem_cloud_create {o : ι} {k k' : Kind} {i j : Ident} (h : j ∈ (w.create o k i).cloud k') :
    j ∈ w.cloud k' ∨ (k' = k ∧ j = i) :=
  mem_cloud_insert h

theorem requestIdent_parent (req : k.Request) (u u' : String) :
    (requestIdent req u).parent = (requestIdent req u').parent := by
  cases k <;> rfl

theorem listed_create_length_le {o : ι} {t : TagMap} (h : w.listed k t = []) :
    ((w.create o k i).listed k t).length ≤ 1 := by
  have hl : (w.create o k i).listed k t = w.listed k t ++ [i].filter fun i =>
      matchesTags t i.tags := by
    simp [World.listed]
  rw [hl, h, List.nil_append]
  exact List.length_filter_le _ _

/-- The identity a successful or lost create adds. -/
structure Addable (w : World ι) (k : Kind) (req : k.Request) (i : Ident) : Prop where
  fresh : w.Fresh k i.uuid
  same : i = requestIdent req i.uuid
  parent : w.ParentExists k i

/-- A guarded create keeps the invariant, clause by clause. -/
theorem inv_create {req : k.Request} (hinv : Inv slot w) (hguard : Guard slot R w (.create k req))
    (hadd : Addable w k req i) : Inv slot (w.create R.owner k i) := by
  obtain ⟨t, ht, hself, honly, hempty, hparent⟩ := hguard
  have htags : i.tags = requestTags req := by rw [hadd.same, requestIdent_tags]
  have hpar : i.parent = (requestIdent req "").parent := by
    rw [hadd.same]
    exact requestIdent_parent req _ _
  -- nothing in the old world has the new identifier
  have hnew : ∀ o', (o', k, i.uuid) ∉ w.created := fun o' h =>
    hadd.fresh.2 (hinv.created_issued o' k _ h).2
  refine ⟨?_, ?_, ?_, ?_, ?_, ?_, ?_, ?_, ?_, ?_⟩
  · -- owned
    intro o k' t' hslot j hj hm
    rcases mem_cloud_insert hj with hj | ⟨rfl, rfl⟩
    · exact List.mem_cons_of_mem _ (hinv.owned o k' t' hslot j hj hm)
    · obtain ⟨rfl, -⟩ := honly o t' hslot (htags ▸ hm)
      exact List.mem_cons_self
  · -- tagged
    intro o k' j hj hc
    rw [created_create, List.mem_cons, Prod.mk.injEq, Prod.mk.injEq] at hc
    rcases mem_cloud_insert hj with hold | ⟨rfl, rfl⟩
    · rcases hc with ⟨-, hk, hu⟩ | hc
      · exact absurd (hk ▸ hu ▸ (hinv.issued _ j hold).2) hadd.fresh.2
      · exact hinv.tagged o k' j hold hc
    · rcases hc with ⟨rfl, -, -⟩ | hc
      · exact ⟨t, ht, htags ▸ hself⟩
      · exact absurd hc (hnew o)
  · -- unique
    intro o k' t' hslot hk'
    by_cases hm : k' = k ∧ matchesTags t' i.tags
    · obtain ⟨rfl, hm⟩ := hm
      obtain ⟨-, rfl⟩ := honly o t' hslot (htags ▸ hm)
      exact listed_create_length_le (hempty hk').2
    · have hsame : (w.create R.owner k i).listed k' t' = w.listed k' t' :=
        listed_insert_of_not fun h hm' => hm ⟨h, hm'⟩
      exact hsame ▸ hinv.unique o k' t' hslot hk'
  · -- members: a new pool has none, since members live in pools handed out earlier
    intro o p hp name
    rw [created_create, List.mem_cons] at hp
    rcases hp with hp | hp
    · obtain ⟨-, rfl, rfl⟩ : o = R.owner ∧ Kind.pool = k ∧ p = i.uuid := by simpa using hp
      have hnone : (w.create R.owner .pool i).membersNamed i.uuid name = [] := by
        rw [World.membersNamed, members_create, List.filter_eq_nil_iff]
        intro m hm hpool
        have : m.pool = i.uuid := (by simpa using hpool : _ ∧ _).1
        exact hadd.fresh.2 (this ▸ (hinv.member_issued m hm).2)
      simp [hnone]
    · exact hinv.members o p hp name
  · -- issued
    intro k' j hj
    rcases mem_cloud_insert hj with hj | ⟨rfl, rfl⟩
    · exact ⟨(hinv.issued k' j hj).1, List.mem_cons_of_mem _ (hinv.issued k' j hj).2⟩
    · exact ⟨hadd.fresh.1, List.mem_cons_self⟩
  · -- created_issued
    intro o k' u hu
    rw [created_create, List.mem_cons] at hu
    rcases hu with hu | hu
    · obtain ⟨-, rfl, rfl⟩ : o = R.owner ∧ k' = k ∧ u = i.uuid := by simpa using hu
      exact ⟨hadd.fresh.1, List.mem_cons_self⟩
    · exact ⟨(hinv.created_issued o k' u hu).1,
        List.mem_cons_of_mem _ (hinv.created_issued o k' u hu).2⟩
  · -- created_once
    intro o o' k' u hu hu'
    rw [created_create, List.mem_cons] at hu hu'
    rcases hu with hu | hu <;> rcases hu' with hu' | hu'
    · simp only [Prod.mk.injEq] at hu hu'
      rw [hu.1, hu'.1]
    · simp only [Prod.mk.injEq] at hu
      exact absurd (hu.2.1 ▸ hu.2.2 ▸ hu') (hnew o')
    · simp only [Prod.mk.injEq] at hu'
      exact absurd (hu'.2.1 ▸ hu'.2.2 ▸ hu) (hnew o)
    · exact hinv.created_once o o' k' u hu hu'
  · -- parent_issued
    intro s hs
    rcases mem_cloud_insert hs with hs | ⟨hk, rfl⟩
    · exact List.mem_cons_of_mem _ (hinv.parent_issued s hs)
    · subst hk
      refine List.mem_cons_of_mem _ ?_
      rw [hpar]
      exact (hinv.created_issued _ _ _ (hparent rfl)).2
  · -- member_issued
    intro m hm
    exact ⟨(hinv.member_issued m hm).1, List.mem_cons_of_mem _ (hinv.member_issued m hm).2⟩
  · -- subnet_parent
    intro o s hs hc
    rcases mem_cloud_insert hs with hold | ⟨hk, rfl⟩
    · rw [created_create, List.mem_cons] at hc
      rcases hc with hc | hc
      · -- an old subnet cannot have the fresh identifier
        obtain ⟨-, hk, hu⟩ : o = R.owner ∧ Kind.subnet = k ∧ s.uuid = i.uuid := by simpa using hc
        subst hk
        exact absurd (hu ▸ (hinv.issued _ s hold).2) hadd.fresh.2
      · obtain ⟨hn, hg⟩ := hinv.subnet_parent o s hold hc
        exact ⟨List.mem_cons_of_mem _ hn, not_gone_insert hg⟩
    · subst hk
      have hown : o = R.owner := by
        rw [created_create, List.mem_cons] at hc
        rcases hc with hc | hc
        · simpa using hc
        · exact absurd hc (hnew o)
      subst hown
      exact ⟨List.mem_cons_of_mem _ (hpar ▸ hparent rfl),
        not_gone_insert (k := .subnet) (i := s) (hadd.parent .network rfl)⟩

/-! ## Deleting -/

theorem cloud_remove_sublist (w : World ι) (k : Kind) (id : String) (k' : Kind) :
    ((w.remove k id).cloud k').Sublist (w.cloud k') := List.filter_sublist

theorem mem_of_mem_remove {id : String} {k' : Kind} (h : i ∈ (w.remove k id).cloud k') :
    i ∈ w.cloud k' :=
  (cloud_remove_sublist w k id k').subset h

theorem listed_remove_sublist (w : World ι) (k : Kind) (id : String) (k' : Kind) (t : TagMap) :
    ((w.remove k id).listed k' t).Sublist (w.listed k' t) :=
  (cloud_remove_sublist w k id k').filter _

theorem membersNamed_remove_sublist (w : World ι) (k : Kind) (id p name : String) :
    ((w.remove k id).membersNamed p name).Sublist (w.membersNamed p name) :=
  List.filter_sublist.filter _

/-- The resource itself is gone. -/
theorem gone_remove (w : World ι) (k : Kind) (id : String) : (w.remove k id).Gone k id := by
  intro i hi hid
  have : (!w.goesWith k id k i) = true := (List.mem_filter.mp hi).2
  simp [World.goesWith, hid] at this

/-- A subnet that stays keeps its network. -/
theorem not_gone_remove_parent {id : String} {s : Ident} (hs : s ∈ (w.remove k id).cloud .subnet)
    (h : ¬ w.Gone .network s.parent) :
    ¬ (w.remove k id).Gone .network s.parent := by
  intro hg
  refine h fun n hn hid => ?_
  have hstay : (!w.goesWith k id .subnet s) = true := (List.mem_filter.mp hs).2
  refine hg n (List.mem_filter.mpr ⟨hn, ?_⟩) hid
  -- the network could only go by being the deleted resource itself
  have hno : ¬ (k = .network ∧ s.parent = id) := by
    intro ⟨hk, hp⟩
    simp [World.goesWith, Kind.parent?, hk, hp] at hstay
  by_cases hk : k = .network
  · subst hk
    have : n.uuid ≠ id := fun e => hno ⟨rfl, hid ▸ e⟩
    simp [World.goesWith, Kind.parent?, this]
  · have hk' : ¬ Kind.network = k := fun e => hk e.symm
    simp [World.goesWith, Kind.parent?, hk']

theorem inv_remove (hinv : Inv slot w) (k : Kind) (id : String) :
    Inv slot (w.remove k id) where
  owned o k' t hslot i hi hm := hinv.owned o k' t hslot i (mem_of_mem_remove hi) hm
  tagged o k' i hi hc := hinv.tagged o k' i (mem_of_mem_remove hi) hc
  unique o k' t hslot hk :=
    Nat.le_trans (listed_remove_sublist w k id k' t).length_le (hinv.unique o k' t hslot hk)
  members o p hp name :=
    Nat.le_trans (membersNamed_remove_sublist w k id p name).length_le (hinv.members o p hp name)
  issued k' i hi := hinv.issued k' i (mem_of_mem_remove hi)
  created_issued := hinv.created_issued
  created_once := hinv.created_once
  parent_issued s hs := hinv.parent_issued s (mem_of_mem_remove hs)
  member_issued m hm := hinv.member_issued m (List.mem_filter.mp hm).1
  subnet_parent o s hs hc :=
    have h := hinv.subnet_parent o s (mem_of_mem_remove hs) hc
    ⟨h.1, not_gone_remove_parent hs h.2⟩

theorem rely_remove (R : Role ι) (w : World ι) (k : Kind) (id : String) :
    Rely R w (w.remove k id) where
  created _ _ h := h
  listed k' t _ := listed_remove_sublist w k id k' t
  members _ p _ name := membersNamed_remove_sublist w k id p name

/-! ## Members -/

theorem membersNamed_createMember (w : World ι) (m : Member) (p name : String) :
    (w.createMember m).membersNamed p name =
      w.membersNamed p name ++ if m.pool = p ∧ m.name = name then [m] else [] := by
  by_cases h : m.pool = p ∧ m.name = name
  · simp [World.membersNamed, World.createMember, h]
  · simp [World.membersNamed, World.createMember, h]

/-- An existing resource with a recorded identifier was created for the owner. -/
theorem Own.created {o : ι} {id : String} (h : Own w o k id) (hinv : Inv slot w)
    (hex : ¬ w.Gone k id) : (o, k, id) ∈ w.created := by
  refine h.resolve_left fun he => hex fun i hi hid => ?_
  exact (hinv.issued k i hi).1 (hid.trans he)

theorem inv_createMember {req : LoadBalancerPoolMemberRequest} (hinv : Inv slot w)
    (hguard : Guard slot R w (.createMember m.pool req)) (hname : m.name = req.name)
    (hex : ¬ w.Gone .pool m.pool) : Inv slot (w.createMember m) := by
  obtain ⟨-, hown, hnone⟩ := hguard
  have hpool := hown.created hinv hex
  refine { hinv with members := ?_, member_issued := ?_ }
  · intro o p hp name
    rw [membersNamed_createMember]
    split
    · next h =>
        obtain ⟨rfl, rfl⟩ := h
        simp [hname, hnone]
    · simpa using hinv.members o p hp name
  · intro m' hm'
    rcases List.mem_append.mp hm' with hm' | hm'
    · exact hinv.member_issued m' hm'
    · rw [List.mem_singleton.mp hm']
      exact hinv.created_issued _ _ _ hpool

theorem membersNamed_removeMember_sublist (w : World ι) (pool uuid p name : String) :
    ((w.removeMember pool uuid).membersNamed p name).Sublist (w.membersNamed p name) :=
  List.filter_sublist.filter _

theorem inv_removeMember (hinv : Inv slot w) (pool uuid : String) :
    Inv slot (w.removeMember pool uuid) :=
  { hinv with
    members := fun o p hp name => Nat.le_trans
      (membersNamed_removeMember_sublist w pool uuid p name).length_le (hinv.members o p hp name)
    member_issued := fun m hm => hinv.member_issued m (List.mem_filter.mp hm).1 }

theorem rely_removeMember (R : Role ι) (w : World ι) (pool uuid : String) :
    Rely R w (w.removeMember pool uuid) where
  created _ _ h := h
  listed _ _ _ := .refl _
  members _ p _ name := membersNamed_removeMember_sublist w pool uuid p name

/-! ## Calls -/

/-- Two roles that do not get in each other's way. -/
structure Apart (slot : Slots ι) (R R' : Role ι) : Prop where
  turf : ∀ k t, R.turf k t → ¬ R'.turf k t
  slot : ∀ k t, R'.turf k t → slot R'.owner k t ∧ k ≠ .serverGroup
  members : R.managesMembers → R'.managesMembers → R.owner ≠ R'.owner

theorem rely_create {R R' : Role ι} (hapart : Apart slot R R') {req : k.Request}
    (hguard : Guard slot R w (.create k req)) (hadd : Addable w k req i) :
    Rely R' w (w.create R.owner k i) where
  created _ _ h := List.mem_cons_of_mem _ h
  listed k' t' ht' := by
    obtain ⟨t, _, _, honly, hempty, _⟩ := hguard
    obtain ⟨hslot, hk'⟩ := hapart.slot k' t' ht'
    have hsame : k' = k → ¬ matchesTags t' i.tags := by
      -- a match would put the new resource into a slot of `R`
      rintro rfl hm
      have htags : i.tags = requestTags req := by rw [hadd.same, requestIdent_tags]
      obtain ⟨-, rfl⟩ := honly _ t' hslot (htags ▸ hm)
      exact hapart.turf k' t' (hempty hk').1 ht'
    exact (listed_insert_of_not hsame : (w.create R.owner k i).listed k' t' = _) ▸ .refl _
  members _ _ _ _ := .refl _

theorem rely_createMember {R R' : Role ι} (hapart : Apart slot R R')
    {req : LoadBalancerPoolMemberRequest} (hinv : Inv slot w)
    (hguard : Guard slot R w (.createMember m.pool req)) (hex : ¬ w.Gone .pool m.pool) :
    Rely R' w (w.createMember m) where
  created _ _ h := h
  listed _ _ _ := .refl _
  members hm' p hp name := by
    obtain ⟨hm, hown, -⟩ := hguard
    rw [membersNamed_createMember, if_neg, List.append_nil]
    rintro ⟨rfl, -⟩
    exact hapart.members hm hm' (hinv.created_once _ _ _ _ (hown.created hinv hex) hp)

/-- A guarded call keeps the invariant and stays within what every role apart
from the caller relies on. -/
theorem inv_answers {w w' : World ι} {op : Op} {r : op.Reply} (hinv : Inv slot w)
    (hguard : Guard slot R w op) (h : Answers R.owner w op r w') :
    Inv slot w' ∧ ∀ R', Apart slot R R' → Rely R' w w' := by
  cases h with
  | @create_ok k req r fresh same parent =>
      have hadd : Addable w k req (identOf r) :=
        ⟨by rwa [identOf_uuid], by rwa [identOf_uuid], parent⟩
      exact ⟨inv_create hinv hguard hadd, fun R' ha => rely_create ha hguard hadd⟩
  | @create_lost k req u e fresh parent =>
      -- made, though the reply was lost
      have hadd : Addable w k req (requestIdent req u) :=
        ⟨by rwa [requestIdent_uuid], by rw [requestIdent_uuid], parent⟩
      exact ⟨inv_create hinv hguard hadd, fun R' ha => rely_create ha hguard hadd⟩
  | @delete_ok k id => exact ⟨inv_remove hinv k id, fun R' _ => rely_remove R' w k id⟩
  | @delete_lost k id e => exact ⟨inv_remove hinv k id, fun R' _ => rely_remove R' w k id⟩
  | @createMember_ok pool req m parent =>
      exact ⟨inv_createMember (m := { uuid := m.uuid, pool, name := req.name }) hinv hguard rfl
        parent, fun R' ha => rely_createMember ha hinv hguard parent⟩
  | @createMember_lost pool req e u parent =>
      exact ⟨inv_createMember (m := { uuid := u, pool, name := req.name }) hinv hguard rfl
        parent, fun R' ha => rely_createMember ha hinv hguard parent⟩
  | @deleteMember_ok pool id =>
      exact ⟨inv_removeMember hinv pool id, fun R' _ => rely_removeMember R' w pool id⟩
  | @deleteMember_lost pool id e =>
      exact ⟨inv_removeMember hinv pool id, fun R' _ => rely_removeMember R' w pool id⟩
  | _ => exact ⟨hinv, fun R' _ => .refl R' w⟩

/-! ## Resources of others -/

/-- Someone else creates a resource: with a fresh identifier, tags no slot selects,
and inside an existing parent. -/
structure Foreign (slot : Slots ι) (w : World ι) (k : Kind) (i : Ident) : Prop where
  fresh : w.Fresh k i.uuid
  tags : ∀ o t, slot o k t → ¬ matchesTags t i.tags
  parent : w.ParentExists k i

theorem inv_insert (hinv : Inv slot w) (h : Foreign slot w k i) : Inv slot (w.insert k i) where
  owned o k' t hslot j hj hm := by
    rcases mem_cloud_insert hj with hj | ⟨rfl, rfl⟩
    · exact hinv.owned o k' t hslot j hj hm
    · exact absurd hm (h.tags o t hslot)
  tagged o k' j hj hc := by
    rcases mem_cloud_insert hj with hj | ⟨rfl, rfl⟩
    · exact hinv.tagged o k' j hj hc
    · exact absurd (hinv.created_issued _ _ _ hc).2 h.fresh.2
  -- a foreign resource matches the tags of no slot
  unique o k' t hslot hk' := by
    rw [listed_insert_of_not]
    · exact hinv.unique o k' t hslot hk'
    · rintro rfl
      exact h.tags o t hslot
  members := hinv.members
  issued k' j hj := by
    rcases mem_cloud_insert hj with hj | ⟨rfl, rfl⟩
    · exact ⟨(hinv.issued k' j hj).1, List.mem_cons_of_mem _ (hinv.issued k' j hj).2⟩
    · exact ⟨h.fresh.1, List.mem_cons_self⟩
  created_issued o k' u hu :=
    ⟨(hinv.created_issued o k' u hu).1, List.mem_cons_of_mem _ (hinv.created_issued o k' u hu).2⟩
  created_once := hinv.created_once
  parent_issued s hs := by
    rcases mem_cloud_insert hs with hs | ⟨rfl, rfl⟩
    · exact List.mem_cons_of_mem _ (hinv.parent_issued s hs)
    · have hparent : ¬ w.Gone .network s.parent := h.parent .network rfl
      simp only [World.Gone, ne_eq, not_forall, not_not] at hparent
      obtain ⟨n, hn, hid⟩ := hparent
      exact List.mem_cons_of_mem _ (hid ▸ (hinv.issued _ n hn).2)
  member_issued m hm :=
    ⟨(hinv.member_issued m hm).1, List.mem_cons_of_mem _ (hinv.member_issued m hm).2⟩
  subnet_parent o s hs hc := by
    rcases mem_cloud_insert hs with hs | ⟨rfl, rfl⟩
    · exact ⟨(hinv.subnet_parent o s hs hc).1, not_gone_insert (hinv.subnet_parent o s hs hc).2⟩
    · exact absurd (hinv.created_issued _ _ _ hc).2 h.fresh.2

theorem rely_insert (hturf : ∀ k t, R.turf k t → slot R.owner k t) (h : Foreign slot w k i) :
    Rely R w (w.insert k i) where
  created _ _ hu := hu
  listed k' t ht := by
    rw [listed_insert_of_not]
    rintro rfl
    exact h.tags _ t (hturf k' t ht)
  members _ _ _ _ := .refl _

/-- Someone else creates a member, in a pool that is not ours. -/
structure ForeignMember (w : World ι) (m : Member) : Prop where
  nonempty : m.pool ≠ ""
  issued : (.pool, m.pool) ∈ w.issued
  foreign : ∀ o, (o, .pool, m.pool) ∉ w.created

theorem ForeignMember.membersNamed (h : ForeignMember w m) {o : ι} {p : String}
    (hp : (o, .pool, p) ∈ w.created) (name : String) :
    (w.createMember m).membersNamed p name = w.membersNamed p name := by
  rw [membersNamed_createMember, if_neg, List.append_nil]
  rintro ⟨rfl, -⟩
  exact h.foreign o hp

theorem inv_foreignMember (hinv : Inv slot w) (h : ForeignMember w m) :
    Inv slot (w.createMember m) := by
  refine { hinv with members := ?_, member_issued := ?_ }
  · intro o p hp name
    rw [h.membersNamed hp]
    exact hinv.members o p hp name
  · intro m' hm'
    rcases List.mem_append.mp hm' with hm' | hm'
    · exact hinv.member_issued m' hm'
    · rw [List.mem_singleton.mp hm']
      exact ⟨h.nonempty, h.issued⟩

theorem rely_foreignMember (h : ForeignMember w m) :
    Rely R w (w.createMember m) where
  created _ _ hu := hu
  listed _ _ _ := .refl _
  members _ p hp name := by rw [h.membersNamed hp]

end Capcs.Ownership
