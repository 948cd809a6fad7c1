import Capcs.Controller.Frames
import Capcs.Ownership.Status

/-!
# Capcs.Lineage.Family — parents and children under one tag

A subnet is looked up by the same tag as its network, and so are the children of the load
balancer. Nothing compares the parent of what is found with what was found for the parent.
The two belong together all the same, for a reason that lies in the cloud: what carries a tag
is created below the one parent that carries it, and goes when that parent does.

* `Family` — the invariant of the cloud.
* `Placed`, `Slotted` — an ID whose resource exists with a tag, and one that may be gone.
* `ensureResource_placed`, `createResource_placed` — the two call patterns.
-/

namespace Capcs.Lineage

open Cloudscale Controller
open Ownership (ownershipTags mem_cloud_create mem_cloud_insert mem_of_mem_remove
  not_gone_insert listed_insert_of_not listed_remove_sublist requestIdent_parent)
open Interaction (Proc Contract)
open Interaction.Contract

variable {ι σ : Type} {cluster : Cluster} {name : String} {w w' w'' : World ι} {k pk : Kind}
  {t : TagMap} {id : String}

/-! ## The invariant -/

/-- The tags that parents and children of a cluster carry. -/
def Tag (cluster : Cluster) (name : String) : Kind → TagMap → Prop
  | .network, t => ∃ n, t = networkTags cluster n
  | .subnet, t => ∃ n, t = networkTags cluster n
  | .loadBalancer, t => t = ownershipTags name
  | .pool, t => t = ownershipTags name
  | .listener, t => t = ownershipTags name
  | .healthMonitor, t => t = ownershipTags name
  | _, _ => False

/-- The kinds with such tags. -/
def inFamily : Kind → Bool
  | .network | .subnet | .loadBalancer | .pool | .listener | .healthMonitor => true
  | _ => false

theorem Tag.inFamily (ht : Tag cluster name k t) : inFamily k = true := by
  cases k <;> first | rfl | exact ht.elim

/-- The tags of two members of a family, if one matches the other. -/
theorem Tag.eq {t' : TagMap} (ht : Tag cluster name k t) (ht' : Tag cluster name k t')
    (hm : matchesTags t' t = true) : t' = t := by
  cases k with
  | network | subnet =>
      obtain ⟨n, rfl⟩ := ht
      obtain ⟨n', rfl⟩ := ht'
      have hn : n = n' := by simpa [matchesTags, networkTags, List.lookup_cons] using hm
      rw [hn]
  | loadBalancer | pool | listener | healthMonitor => exact ht'.trans ht.symm
  | _ => exact ht.elim

theorem Tag.self (ht : Tag cluster name k t) : matchesTags t t = true := by
  cases k with
  | network | subnet =>
      obtain ⟨n, rfl⟩ := ht
      simp [matchesTags, networkTags]
  | loadBalancer | pool | listener | healthMonitor =>
      obtain rfl := ht
      simp [matchesTags, ownershipTags]
  | _ => exact ht.elim

/-- A resource with these tags exists under this ID. -/
def Placed (w : World ι) (k : Kind) (t : TagMap) (id : String) : Prop :=
  ∃ i ∈ w.cloud k, i.uuid = id ∧ matchesTags t i.tags = true

/-- A recorded ID: if its resource still exists, it has these tags. -/
def Slotted (w : World ι) (k : Kind) (t : TagMap) (id : String) : Prop :=
  id = "" ∨ (k, id) ∈ w.issued ∧ ∀ i ∈ w.cloud k, i.uuid = id → matchesTags t i.tags = true

/-- A resource lies in another. -/
def LiesIn (w : World ι) (k : Kind) (parent id : String) : Prop :=
  ∃ i ∈ w.cloud k, i.uuid = id ∧ i.parent = parent

/-- Each tag marks one resource of a kind, and children of a parent that it marks. -/
structure Family (cluster : Cluster) (name : String) (w : World ι) : Prop where
  issued : ∀ k, ∀ i ∈ w.cloud k, i.uuid ≠ "" ∧ (k, i.uuid) ∈ w.issued
  ids : ∀ k, ∀ i ∈ w.cloud k, ∀ j ∈ w.cloud k, i.uuid = j.uuid → i = j
  unique : ∀ k t, Tag cluster name k t → (w.listed k t).length ≤ 1
  below : ∀ k t, Tag cluster name k t → ∀ pk, k.parent? = some pk → ∀ i ∈ w.cloud k,
    matchesTags t i.tags = true → Placed w pk t i.parent

theorem mem_listed {i : Ident} :
    i ∈ w.listed k t ↔ i ∈ w.cloud k ∧ matchesTags t i.tags = true := List.mem_filter

theorem Family.same (h : Family cluster name w) (ht : Tag cluster name k t) {i j : Ident}
    (hi : i ∈ w.listed k t) (hj : j ∈ w.listed k t) : i = j := by
  have hlen := h.unique k t ht
  match hl : w.listed k t with
  | [] => simp [hl] at hi
  | [x] =>
      rw [hl, List.mem_singleton] at hi hj
      exact hi.trans hj.symm
  | _ :: _ :: _ => simp [hl] at hlen

/-- Parent and child of one tag belong together. -/
theorem Family.liesIn (h : Family cluster name w) (hpk : k.parent? = some pk)
    (ht : Tag cluster name k t) (htp : Tag cluster name pk t) {parent : String}
    (hp : Placed w pk t parent) (hc : Placed w k t id) : LiesIn w k parent id := by
  obtain ⟨i, hi, rfl, hm⟩ := hc
  obtain ⟨p, hpmem, rfl, hpm⟩ := hp
  obtain ⟨q, hq, hqid, hqm⟩ := h.below k t ht pk hpk i hi hm
  have heq : p = q := h.same htp (mem_listed.mpr ⟨hpmem, hpm⟩) (mem_listed.mpr ⟨hq, hqm⟩)
  exact ⟨i, hi, rfl, by rw [heq, hqid]⟩

theorem Placed.slotted (hp : Placed w k t id) (h : Family cluster name w) : Slotted w k t id := by
  obtain ⟨i, hi, rfl, hm⟩ := hp
  exact .inr ⟨(h.issued k i hi).2, fun j hj hid => h.ids k j hj i hi hid ▸ hm⟩

theorem Placed.nonempty (hp : Placed w k t id) (h : Family cluster name w) : id ≠ "" := by
  obtain ⟨i, hi, rfl, -⟩ := hp
  exact (h.issued k i hi).1

/-! ## Changes of the cloud -/

/-- Nothing was taken away, and what was added has new IDs. -/
structure Grown (w w' : World ι) : Prop where
  stays : ∀ k, inFamily k = true → ∀ i ∈ w.cloud k, i ∈ w'.cloud k
  issued : ∀ p ∈ w.issued, p ∈ w'.issued
  fresh : ∀ k, inFamily k = true → ∀ i ∈ w'.cloud k, (k, i.uuid) ∈ w.issued → i ∈ w.cloud k

theorem Grown.refl (w : World ι) : Grown w w :=
  ⟨fun _ _ _ h => h, fun _ h => h, fun _ _ _ h _ => h⟩

theorem Grown.trans (h₁ : Grown w w') (h₂ : Grown w' w'') : Grown w w'' where
  stays k hk i hi := h₂.stays k hk i (h₁.stays k hk i hi)
  issued p hp := h₂.issued p (h₁.issued p hp)
  fresh k hk i hi hissued :=
    h₁.fresh k hk i (h₂.fresh k hk i hi (h₁.issued _ hissued)) hissued

/-- Kinds outside of the families do not count. -/
theorem grown_of_same (hcloud : ∀ k, inFamily k = true → w'.cloud k = w.cloud k)
    (hissued : ∀ p ∈ w.issued, p ∈ w'.issued) : Grown w w' :=
  ⟨fun k hk _ hi => hcloud k hk ▸ hi, hissued, fun k hk _ hi _ => hcloud k hk ▸ hi⟩

theorem Placed.grown (hp : Placed w k t id) (hk : inFamily k = true) (hg : Grown w w') :
    Placed w' k t id := by
  obtain ⟨i, hi, hid, hm⟩ := hp
  exact ⟨i, hg.stays k hk i hi, hid, hm⟩

theorem Slotted.grown (hs : Slotted w k t id) (hk : inFamily k = true) (hg : Grown w w') :
    Slotted w' k t id := by
  rcases hs with rfl | ⟨hissued, hs⟩
  · exact .inl rfl
  · refine .inr ⟨hg.issued _ hissued, fun i hi hid => hs i (hg.fresh k hk i hi ?_) hid⟩
    rwa [hid]

theorem grown_insert {i : Ident} (hfresh : w.Fresh k i.uuid) : Grown w (w.insert k i) where
  stays k' _ j hj := by
    simp only [World.insert]
    split
    · exact List.mem_append_left _ hj
    · exact hj
  issued p hp := List.mem_cons_of_mem _ hp
  fresh k' _ j hj hissued := by
    rcases mem_cloud_insert hj with hj | ⟨rfl, rfl⟩
    · exact hj
    · exact absurd hissued hfresh.2

/-- What a create needs for the families to stay in order. -/
def FitsFamily (cluster : Cluster) (name : String) (w : World ι) (k : Kind) (tags : TagMap)
    (parent : String) : Prop :=
  ∀ t, Tag cluster name k t → matchesTags t tags = true →
    w.listed k t = [] ∧ ∀ pk, k.parent? = some pk → Placed w pk t parent

theorem fits_of_tag (ht : Tag cluster name k t) (hempty : w.listed k t = []) {parent : String}
    (hparent : ∀ pk, k.parent? = some pk → Placed w pk t parent) :
    FitsFamily cluster name w k t parent := by
  intro t' ht' hm
  obtain rfl := ht.eq ht' hm
  exact ⟨hempty, hparent⟩

theorem parent_inFamily (hpk : k.parent? = some pk) : inFamily pk = true := by
  cases k <;> cases hpk <;> rfl

theorem Family.insert (h : Family cluster name w) {i : Ident} (hfresh : w.Fresh k i.uuid)
    (hfits : FitsFamily cluster name w k i.tags i.parent) : Family cluster name (w.insert k i) where
  issued k' j hj := by
    rcases mem_cloud_insert hj with hj | ⟨rfl, rfl⟩
    · exact ⟨(h.issued k' j hj).1, List.mem_cons_of_mem _ (h.issued k' j hj).2⟩
    · exact ⟨hfresh.1, List.mem_cons_self⟩
  ids k' j hj j' hj' hid := by
    rcases mem_cloud_insert hj with hold | ⟨rfl, rfl⟩
    · rcases mem_cloud_insert hj' with hold' | ⟨rfl, rfl⟩
      · exact h.ids k' j hold j' hold' hid
      · exact absurd (hid ▸ (h.issued k' j hold).2) hfresh.2
    · rcases mem_cloud_insert hj' with hold' | ⟨-, rfl⟩
      · exact absurd (hid ▸ (h.issued k' j' hold').2) hfresh.2
      · rfl
  unique k' t ht := by
    -- only the tags of the new resource list one more
    by_cases hm : k' = k ∧ matchesTags t i.tags = true
    · obtain ⟨rfl, hm⟩ := hm
      have hl : (w.insert k' i).listed k' t = w.listed k' t ++ [i] := by
        simp [World.listed, World.insert, hm]
      simp [hl, (hfits t ht hm).1]
    · rw [listed_insert_of_not fun hk hm' => hm ⟨hk, hm'⟩]
      exact h.unique k' t ht
  below k' t ht pk hpk j hj hm := by
    rcases mem_cloud_insert hj with hj | ⟨rfl, rfl⟩
    · exact (h.below k' t ht pk hpk j hj hm).grown (parent_inFamily hpk) (grown_insert hfresh)
    · exact ((hfits t ht hm).2 pk hpk).grown (parent_inFamily hpk) (grown_insert hfresh)

theorem Slotted.remove (hs : Slotted w k t id) (k' : Kind) (id' : String) :
    Slotted (w.remove k' id') k t id := by
  rcases hs with rfl | ⟨hissued, hs⟩
  · exact .inl rfl
  · exact .inr ⟨hissued, fun i hi hid => hs i (mem_of_mem_remove hi) hid⟩

/-- A child that stays keeps its parent. -/
theorem parent_stays {i p : Ident} (hpk : k.parent? = some pk) {k' : Kind} {id' : String}
    (hi : i ∈ (w.remove k' id').cloud k) (hp : p ∈ w.cloud pk) (hid : p.uuid = i.parent) :
    p ∈ (w.remove k' id').cloud pk := by
  have hstay : w.goesWith k' id' k i = false := by simpa using (List.mem_filter.mp hi).2
  refine List.mem_filter.mpr ⟨hp, ?_⟩
  simp only [World.goesWith, hpk, Option.some.injEq, decide_eq_false_iff_not, not_or, not_and,
    not_exists] at hstay
  simp only [World.goesWith, Bool.not_eq_true', decide_eq_false_iff_not, not_or,
    not_and, not_exists]
  refine ⟨?_, ?_, ?_⟩
  · rintro rfl huuid
    exact hstay.2.1 rfl (hid.symm.trans huuid)
  · -- the parent is a pool, and goes with its load balancer
    intro hppk hpp
    cases pk with
    | pool =>
        cases k' with
        | loadBalancer => exact hstay.2.2 rfl rfl p hp hid hpp
        | _ => cases hppk
    | _ => cases k <;> cases hpk <;> cases hppk
  · intro _ hppk
    cases k <;> cases hpk <;> cases hppk

theorem Family.remove (h : Family cluster name w) (k' : Kind) (id' : String) :
    Family cluster name (w.remove k' id') where
  issued k i hi := h.issued k i (mem_of_mem_remove hi)
  ids k i hi j hj hid := h.ids k i (mem_of_mem_remove hi) j (mem_of_mem_remove hj) hid
  unique k t ht := Nat.le_trans (listed_remove_sublist w k' id' k t).length_le (h.unique k t ht)
  below k t ht pk hpk i hi hm := by
    obtain ⟨p, hp, hid, hpm⟩ := h.below k t ht pk hpk i (mem_of_mem_remove hi) hm
    exact ⟨p, parent_stays hpk hi hp hid, hid, hpm⟩

/-! ## The contract of a pass -/

/-- What a call has to meet. -/
def FamilyGuard (cluster : Cluster) (name : String) (w : World ι) : Op → Prop
  | .create k req => FitsFamily cluster name w k (requestTags req) (requestIdent req "").parent
  | _ => True

/-- The pass is alone, and its calls succeed or fail as they like. -/
def familyCalls (cluster : Cluster) (name : String) (o : ι) : Contract (World ι) Op Op.Reply where
  inv := Family cluster name
  rely w w' := w' = w
  guard := FamilyGuard cluster name
  answer := Answers o

/-- A call that deletes a resource of a family. -/
def deletesFamily : Op → Bool
  | .delete k _ => inFamily k
  | _ => false

/-- Other deletions do not reach the families. -/
theorem grown_remove (hk : inFamily k = false) (id : String) : Grown w (w.remove k id) := by
  refine grown_of_same (fun k' hk' => ?_) fun _ hp => hp
  refine List.filter_eq_self.mpr fun i _ => ?_
  have hne : k' ≠ k := by
    rintro rfl
    simp [hk] at hk'
  have hpar : k'.parent? ≠ some k := fun hp => by simp [parent_inFamily hp] at hk
  have hlb : k ≠ .loadBalancer := by
    rintro rfl
    cases hk
  simp [World.goesWith, hne, hpar, hlb]

theorem Family.create (h : Family cluster name w) {o : ι} {req : k.Request} {i : Ident}
    (hguard : FamilyGuard cluster name w (.create k req)) (hfresh : w.Fresh k i.uuid)
    (hsame : i = requestIdent req i.uuid) :
    Family cluster name (w.create o k i) ∧ Grown w (w.create o k i) := by
  have htags : i.tags = requestTags req := by rw [hsame, requestIdent_tags]
  have hpar : i.parent = (requestIdent req "").parent := by
    rw [hsame]
    exact requestIdent_parent req _ _
  have hfam := h.insert hfresh (htags ▸ hpar ▸ hguard)
  have hgrown := grown_insert hfresh
  exact ⟨⟨hfam.issued, hfam.ids, hfam.unique, hfam.below⟩,
    ⟨hgrown.stays, hgrown.issued, hgrown.fresh⟩⟩

/-- A guarded call keeps the families in order, and takes nothing away unless it deletes. -/
theorem Family.answers (h : Family cluster name w) {o : ι} {op : Op} {r : op.Reply}
    (hguard : FamilyGuard cluster name w op) (hans : Answers o w op r w') :
    Family cluster name w' ∧ (deletesFamily op = false → Grown w w') := by
  have hsame : Family cluster name w ∧ (deletesFamily op = false → Grown w w) :=
    ⟨h, fun _ => .refl w⟩
  cases hans with
  | @create_ok k req r fresh same parent =>
      obtain ⟨hfam, hgrown⟩ := h.create (o := o) hguard (by rwa [identOf_uuid])
        (by rwa [identOf_uuid])
      exact ⟨hfam, fun _ => hgrown⟩
  | @create_lost k req u e fresh parent =>
      obtain ⟨hfam, hgrown⟩ := h.create (o := o) (i := requestIdent req u) hguard
        (by rwa [requestIdent_uuid]) (by rw [requestIdent_uuid])
      exact ⟨hfam, fun _ => hgrown⟩
  | @delete_ok k id => exact ⟨h.remove k id, fun hno => grown_remove hno id⟩
  | @delete_lost k id e => exact ⟨h.remove k id, fun hno => grown_remove hno id⟩
  | createMember_ok | createMember_lost | deleteMember_ok | deleteMember_lost =>
      exact ⟨⟨h.issued, h.ids, h.unique, h.below⟩,
        fun _ => grown_of_same (fun _ _ => rfl) fun _ hp => hp⟩
  | _ => exact hsame

/-- No call makes a recorded ID lead to something without its tags. -/
theorem Slotted.answers (hs : Slotted w k t id) {o : ι} {op : Op} {r : op.Reply}
    (hk : inFamily k = true) (hans : Answers o w op r w') : Slotted w' k t id := by
  have hgrown {k' : Kind} {i : Ident} (hfresh : w.Fresh k' i.uuid) : Grown w (w.create o k' i) :=
    have hg := grown_insert hfresh
    ⟨hg.stays, hg.issued, hg.fresh⟩
  cases hans with
  | create_ok fresh same parent => exact hs.grown hk (hgrown (by rwa [identOf_uuid]))
  | create_lost fresh parent => exact hs.grown hk (hgrown (by rwa [requestIdent_uuid]))
  | delete_ok | delete_lost => exact hs.remove _ _
  | _ => exact hs

theorem get_same {o : ι} {r : (Op.get k id).Reply} (hans : Answers o w (.get k id) r w') :
    w' = w := by
  cases hans <;> rfl

/-! ## Shared call patterns -/

section Patterns

variable {s : σ} {o : ι}

/-- What `ensureResource` hands back: nothing, where no resource carries the tags, or the ID of
one that does. -/
def EnsurePlaced (w : World ι) (k : Kind) (t : TagMap)
    (out : Except GoError (Option k.Resource × String)) : Prop :=
  ∀ r id, out = .ok (r, id) → (id = "" ∧ w.listed k t = []) ∨ (id ≠ "" ∧ Placed w k t id)

theorem adoptByTags_placed {what : String} :
    (familyCalls cluster name o).wpc (fun out s' w' => s' = s ∧ w' = w ∧ EnsurePlaced w k t out)
      (adoptByTags k what t) s w := by
  rw [adoptByTags, wpc_bind]
  refine wpc_perform.mpr ?_
  rintro w₁ rfl hinv
  refine ⟨trivial, fun r w₂ hans _ => ?_⟩
  cases hans with
  | list_err => exact ⟨rfl, rfl, by simp [EnsurePlaced]⟩
  | @list_ok _ _ rs hexact =>
      rcases rs with _ | ⟨item, _ | ⟨_, _⟩⟩
      · refine ⟨rfl, rfl, ?_⟩
        rintro r id ⟨⟩
        exact .inl ⟨rfl, hexact.symm⟩
      · refine ⟨rfl, rfl, ?_⟩
        rintro r id ⟨⟩
        have hitem : identOf item ∈ w₁.listed k t := by
          rw [← hexact]
          exact List.mem_singleton.mpr rfl
        obtain ⟨hmem, hm⟩ := mem_listed.mp hitem
        have hp : Placed w₁ k t (uuidOf item) := ⟨_, hmem, identOf_uuid item, hm⟩
        exact .inr ⟨hp.nonempty hinv, hp⟩
      · exact ⟨rfl, rfl, by simp [EnsurePlaced]⟩

theorem ensureResource_placed {current what : String} (hcur : Slotted w k t current) :
    (familyCalls cluster name o).wpc (fun out s' w' => s' = s ∧ w' = w ∧ EnsurePlaced w k t out)
      (ensureResource k current what t) s w := by
  rw [ensureResource, wpc_ite]
  split
  · next hne =>
    rw [wpc_bind]
    refine wpc_perform.mpr ?_
    rintro w₁ rfl hinv
    refine ⟨trivial, fun r w₂ hans _ => ?_⟩
    cases hans with
    | @get_ok _ r _ found same =>
        refine ⟨rfl, rfl, ?_⟩
        rintro r' id ⟨⟩
        have hid : (identOf r).uuid = current := by rw [identOf_uuid, same]
        exact .inr ⟨hne, _, found, hid, (hcur.resolve_left hne).2 _ found hid⟩
    | @get_err _ _ err =>
        simp only [after_ok, wpc_ite]
        split
        · exact adoptByTags_placed
        · exact ⟨rfl, rfl, by simp [EnsurePlaced]⟩
  · exact adoptByTags_placed

/-- What a create hands back: a resource that exists, or a requeue. -/
structure CreatePlaced (w : World ι) (k : Kind) (t : TagMap) (n : Nat)
    (out : Except GoError (Except Result k.Resource)) : Prop where
  placed : ∀ r, out = .ok (.ok r) → Placed w k t (uuidOf r)
  requeue : ∀ result, out = .ok (.error result) → result = { requeueAfter := n }

theorem createResource_placed {req : k.Request} {what : String} {n : Nat}
    (ht : Tag cluster name k t) (htags : requestTags req = t) (hempty : w.listed k t = [])
    (hparent : ∀ pk, k.parent? = some pk → Placed w pk t (requestIdent req "").parent) :
    (familyCalls cluster name o).wpc
      (fun out s' w' => s' = s ∧ Grown w w' ∧ CreatePlaced w' k t n out)
      (createResource k req what n) s w := by
  rw [createResource, wpc_bind]
  refine wpc_perform.mpr ?_
  rintro w₁ rfl hinv
  have hguard : FamilyGuard cluster name w₁ (.create k req) := by
    show FitsFamily cluster name w₁ k (requestTags req) _
    rw [htags]
    exact fits_of_tag ht hempty hparent
  refine ⟨hguard, fun r w₂ hans _ => ?_⟩
  have hgrown := (hinv.answers hguard hans).2 rfl
  cases r with
  | error err =>
      -- the resource may be there all the same, but is not handed back
      simp only [after_ok, wpc_ite]
      split
      · refine ⟨rfl, hgrown, by simp, ?_⟩
        rintro result ⟨⟩
        rfl
      · exact ⟨rfl, hgrown, by simp, by simp⟩
  | ok r =>
      refine ⟨rfl, hgrown, ?_, by simp⟩
      rintro r' ⟨⟩
      cases hans with
      | create_ok fresh same parent =>
          refine ⟨identOf r, by simp, identOf_uuid r, ?_⟩
          rw [same, requestIdent_tags, htags]
          exact ht.self

end Patterns

end Capcs.Lineage
