import Capcs.Interaction.Cleanup
import Capcs.Teardown.Networks
import Mathlib.Data.Set.Finite.Basic

/-!
# Capcs.Teardown.Estate — the part of the cloud a teardown works on

What a teardown can take away, as a set of assets: resources, the interfaces of routers, and
server groups with what is in them. `Serves` is how the API answers the calls of a teardown: a
call succeeds, fails without effect, or fails after it has taken effect; a 404 means that nothing
is there. `Fine` is what a call answers in a pass that goes well.

An estate keeps what the API guarantees of it: a router is attached to a network at most once,
UUIDs are unique, and interfaces are on routers that exist.
-/

namespace Capcs.Teardown

open Cloudscale Controller

variable {k : Kind} {id : String} {err : ApiError} {r : Except ApiError Unit} {tags : TagMap}

/-- Something that a teardown can take away. -/
inductive Asset where
  | resource (k : Kind) (id : String)
  | iface (router : String) (x : RouterInterface)
  | group (g : ServerGroup)

/-- What goes with the delete of a resource: a router takes its interfaces along. -/
def belongs : Kind → String → Set Asset
  | .router, id => {a | a = .resource .router id ∨ ∃ x, a = .iface id x}
  | .serverGroup, id => {a | ∃ g, a = .group g ∧ g.uuid = id}
  | k, id => {.resource k id}

/-- What goes with the delete of an interface. -/
def attachedAs (router id : String) : Set Asset := {a | ∃ x, a = .iface router x ∧ x.uuid = id}

/-- What there is in the cloud. -/
structure Estate where
  assets : Set Asset
  finite : assets.Finite
  homed : ∀ {router x}, .iface router x ∈ assets → .resource .router router ∈ assets
  named : ∀ {router x}, .iface router x ∈ assets → x.uuid ≠ ""
  uuid_inj : ∀ {router x y}, .iface router x ∈ assets → .iface router y ∈ assets →
    x.uuid = y.uuid → x = y
  network_inj : ∀ {router x y}, .iface router x ∈ assets → .iface router y ∈ assets →
    x.network = y.network → x = y
  group_inj : ∀ {g g'}, .group g ∈ assets → .group g' ∈ assets → g.uuid = g'.uuid → g = g'

/-- An estate without some of its assets. -/
def Estate.without (E : Estate) (S : Set Asset)
    (hS : ∀ router x, .resource .router router ∈ S → .iface router x ∈ S) : Estate where
  assets := E.assets \ S
  finite := E.finite.subset Set.sdiff_subset
  homed hx := ⟨E.homed hx.1, fun hrouter => hx.2 (hS _ _ hrouter)⟩
  named hx := E.named hx.1
  uuid_inj hx hy := E.uuid_inj hx.1 hy.1
  network_inj hx hy := E.network_inj hx.1 hy.1
  group_inj hg hg' := E.group_inj hg.1 hg'.1

theorem iface_mem_belongs {id router : String} {x : RouterInterface}
    (h : .resource .router router ∈ belongs k id) : .iface router x ∈ belongs k id := by
  cases k with
  | router =>
      obtain h | ⟨_, h⟩ := h
      · cases h
        exact .inr ⟨x, rfl⟩
      · cases h
  | serverGroup =>
      obtain ⟨_, h, -⟩ := h
      cases h
  | network | subnet | loadBalancer | pool | listener | healthMonitor | floatingIP | server =>
      cases h

/-! ## Answers -/

/-- A call that a teardown has no use for. -/
def OfNoUse : Op → Prop
  | .get k _ => k ≠ .router
  | .list k _ => k ≠ .serverGroup
  | .delete _ _ => False
  | .deleteInterface _ _ => False
  | .listMachines _ _ _ => False
  | _ => True

/-- How the API answers while nobody else changes anything. -/
inductive Serves (E : Estate) : (op : Op) → op.Reply → Estate → Prop where
  | got {id : String} {router : Router} : .resource .router id ∈ E.assets →
      (∀ x, x ∈ router.interfaces ↔ .iface id x ∈ E.assets) →
      Serves E (.get .router id) (.ok router) E
  | notGot {id : String} {err : ApiError} :
      (isNotFound err = true → .resource .router id ∉ E.assets) →
      Serves E (.get .router id) (.error err) E
  | listed {tags : TagMap} {groups : List ServerGroup} :
      (∀ g, g ∈ groups ↔ .group g ∈ E.assets ∧ matchesTags tags g.tags = true) →
      Serves E (.list .serverGroup tags) (.ok groups) E
  | notListed {tags : TagMap} {err : ApiError} : isNotFound err = false →
      Serves E (.list .serverGroup tags) (.error err) E
  | deleted {k : Kind} {id : String} {E' : Estate} : E'.assets = E.assets \ belongs k id →
      Serves E (.delete k id) (.ok ()) E'
  | nothing {k : Kind} {id : String} {err : ApiError} : isNotFound err = true →
      isLBPoolMembersError err = false → (∀ a ∈ E.assets, a ∉ belongs k id) →
      Serves E (.delete k id) (.error err) E
  | notDeleted {k : Kind} {id : String} {err : ApiError} {E' : Estate} : isNotFound err = false →
      E' = E ∨ E'.assets = E.assets \ belongs k id → Serves E (.delete k id) (.error err) E'
  | detached {router id : String} {E' : Estate} : E'.assets = E.assets \ attachedAs router id →
      Serves E (.deleteInterface router id) (.ok ()) E'
  | notAttached {router id : String} {err : ApiError} : isNotFound err = true →
      (∀ a ∈ E.assets, a ∉ attachedAs router id) →
      Serves E (.deleteInterface router id) (.error err) E
  | notDetached {router id : String} {err : ApiError} {E' : Estate} : isNotFound err = false →
      E' = E ∨ E'.assets = E.assets \ attachedAs router id →
      Serves E (.deleteInterface router id) (.error err) E'
  | machines {ns name : String} {controlPlane : Bool}
      {reply : Except KubeError (List CloudscaleMachine)} :
      Serves E (.listMachines ns name controlPlane) reply E
  | foreign {op : Op} {reply : op.Reply} : OfNoUse op → Serves E op reply E

/-- The recorded servers of some machines. -/
def ownedServerIDs (machines : List CloudscaleMachine) : List String :=
  (machines.map (·.status.serverID)).filter (· ≠ "")

/-- A call that goes well: it succeeds or answers 404, and the machines that are listed have no
server in a group with the tags. -/
def Fine (tags : TagMap) (E : Estate) : (op : Op) → op.Reply → Prop
  | .get _ _, .error err => isNotFound err = true
  | .list _ _, .error err => isNotFound err = true
  | .delete _ _, .error err => isNotFound err = true
  | .deleteInterface _ _, .error err => isNotFound err = true
  | .listMachines _ _ _, .error _ => False
  | .listMachines _ _ _, .ok machines => ∀ g, .group g ∈ E.assets → matchesTags tags g.tags = true →
      ∀ s ∈ g.servers, s ∉ ownedServerIDs machines
  | _, _ => True

/-- The answers in a teardown, where with `clean` every call goes well. -/
def EstateAnswers (tags : TagMap) (clean : Prop) (E : Estate) (op : Op) (r : op.Reply)
    (E' : Estate) : Prop :=
  Serves E op r E' ∧ (clean → Fine tags E op r)

/-- There always is an answer that goes well. -/
theorem exists_answer (tags : TagMap) (clean : Prop) (E : Estate) (op : Op) :
    ∃ r E', EstateAnswers tags clean E op r E' := by
  classical
  cases op with
  | get k id =>
      by_cases hk : k = .router
      · subst hk
        by_cases hmem : .resource .router id ∈ E.assets
        -- the estate is finite, so what is attached can be listed
        · have hfinite : {x | .iface id x ∈ E.assets}.Finite :=
            E.finite.preimage fun _ _ _ _ heq => (Asset.iface.inj heq).2
          refine ⟨.ok { uuid := id, interfaces := hfinite.toFinset.toList }, E, ?_,
            fun _ => trivial⟩
          exact .got hmem fun x => by simp
        · exact ⟨.error (.response 404 ""), E, .notGot fun _ => hmem, fun _ => rfl⟩
      · exact ⟨.error (.response 404 ""), E, .foreign hk, fun _ => rfl⟩
  | list k filter =>
      by_cases hk : k = .serverGroup
      · subst hk
        have hfinite : {g | .group g ∈ E.assets ∧ matchesTags filter g.tags = true}.Finite := by
          refine (E.finite.preimage (f := Asset.group) ?_).subset fun g hg => hg.1
          exact fun _ _ _ _ heq => Asset.group.inj heq
        exact ⟨.ok hfinite.toFinset.toList, E, .listed fun g => by simp, fun _ => trivial⟩
      · exact ⟨.ok [], E, .foreign hk, fun _ => trivial⟩
  | delete k id =>
      exact ⟨.ok (), E.without (belongs k id) fun _ _ => iface_mem_belongs, .deleted rfl,
        fun _ => trivial⟩
  | deleteInterface router id =>
      refine ⟨.ok (), E.without (attachedAs router id) ?_, .detached rfl, fun _ => trivial⟩
      rintro _ _ ⟨_, heq, -⟩
      cases heq
  | listMachines ns name controlPlane =>
      exact ⟨.ok [], E, .machines, fun _ => by simp [Fine, ownedServerIDs]⟩
  | create _ _ => exact ⟨.error (.other ""), E, .foreign trivial, fun _ => trivial⟩
  | listMembers _ | createMember _ _ | updateMember _ _ _ | deleteMember _ _ | createInterface _ _
  | updateFloatingIP _ _ => exact ⟨.error (.other ""), E, .foreign trivial, fun _ => trivial⟩
  | getSecret _ _ => exact ⟨.ok [], E, .foreign trivial, fun _ => trivial⟩

/-! ## What a delete does -/

/-- At most `S` has gone. -/
def Took (S : Set Asset) (E E' : Estate) : Prop :=
  E'.assets ⊆ E.assets ∧ ∀ a ∈ E.assets, a ∉ E'.assets → a ∈ S

variable {E E' : Estate} {S : Set Asset} {A A' : Set Asset}

theorem Took.refl (S : Set Asset) (E : Estate) : Took S E E :=
  ⟨subset_rfl, fun _ ha hnot => absurd ha hnot⟩

theorem Took.of_diff (h : E'.assets = E.assets \ S) : Took S E E' := by
  rw [Took, h]
  refine ⟨Set.sdiff_subset, fun a ha hnot => ?_⟩
  by_contra hS
  exact hnot ⟨ha, hS⟩

theorem Took.of_or (h : E' = E ∨ E'.assets = E.assets \ S) : Took S E E' := by
  rcases h with rfl | h
  · exact .refl S E'
  · exact .of_diff h

/-- Taking something that is to go. -/
theorem Took.cleans (h : Took S E E') (hS : ∀ a ∈ E.assets, a ∈ S → a ∈ A)
    (hleft : ∀ a ∈ E'.assets, a ∈ A ↔ a ∈ A') : Interaction.Cleans A A' E.assets E'.assets :=
  ⟨h.1, fun a ha hnot => hS a ha (h.2 a ha hnot), hleft⟩

/-- A delete takes at most what belongs to the resource, and nothing of it is left if it
succeeds or answers 404. -/
theorem serves_delete (h : Serves E (.delete k id) r E') : Took (belongs k id) E E' ∧
      (gone r = true → ∀ a ∈ E'.assets, a ∉ belongs k id) ∧
        (gone r = true → refused r = false) := by
  cases h with
  | deleted hdiff =>
      refine ⟨.of_diff hdiff, fun _ a ha => ?_, fun _ => rfl⟩
      rw [hdiff] at ha
      exact ha.2
  | nothing _ hpool hnone => exact ⟨.refl _ _, fun _ => hnone, fun _ => hpool⟩
  | notDeleted hnot hor =>
      have hgone : ∀ {p : Prop}, gone (.error _) = true → p := fun h => by
        rw [gone, hnot] at h
        cases h
      exact ⟨.of_or hor, hgone, hgone⟩
  | foreign hf => exact hf.elim

/-- The same for the delete of an interface. -/
theorem serves_detach {router id : String} (h : Serves E (.deleteInterface router id) r E') :
    Took (attachedAs router id) E E' ∧
      (gone r = true → ∀ a ∈ E'.assets, a ∉ attachedAs router id) := by
  cases h with
  | detached hdiff =>
      refine ⟨.of_diff hdiff, fun _ a ha => ?_⟩
      rw [hdiff] at ha
      exact ha.2
  | notAttached _ hnone => exact ⟨.refl _ _, fun _ => hnone⟩
  | notDetached hnot hor =>
      refine ⟨.of_or hor, fun h => ?_⟩
      rw [gone, hnot] at h
      cases h
  | foreign hf => exact hf.elim

/-- A delete that goes well leaves nothing behind. -/
theorem gone_of_fine (h : Fine tags E (.delete k id) r) : gone r = true := by
  cases r with
  | ok => rfl
  | error err => exact h

theorem gone_of_fine_detach {router id : String} (h : Fine tags E (.deleteInterface router id) r) :
    gone r = true := by
  cases r with
  | ok => rfl
  | error err => exact h

end Capcs.Teardown
