import Capcs.Controller.Services
import Capcs.Interaction.Frame
import Capcs.Ownership.Invariant

/-!
# Capcs.Ownership.Calls — the shared call patterns, specified

The contract a reconciler works under (`api`), and one specification for each
call pattern of `Capcs.Controller.Services`. With `clean`, the world is also
taken to stand still between the calls and to answer faithfully; that is the
setting of the results about leaks, and it costs the others nothing.

* `ensureResource_spec` — whatever `ensureResource` returns was created for the
  caller, and if it returns nothing, the slot selects nothing.
* `createResource_spec` — a create of a guarded request.
-/

namespace Capcs.Ownership

open Cloudscale Controller
open Interaction (Contract Proc Frame)
open Interaction.Contract

variable {ι σ : Type} {slot : Slots ι} {R : Role ι} {clean : Prop}

/-- What may happen to the world between two calls. -/
def Later (R : Role ι) (clean : Prop) (w w' : World ι) : Prop := Rely R w w' ∧ (clean → w' = w)

/-- The contract of a role. -/
def api (slot : Slots ι) (R : Role ι) (clean : Prop) : Contract (World ι) Op Op.Reply where
  inv := Inv slot
  rely := Later R clean
  guard := Guard slot R
  answer w op r w' := Answers R.owner w op r w' ∧ (clean → Faithful w op r w')

theorem Later.refl (w : World ι) : Later R clean w w := ⟨.refl R w, fun _ => rfl⟩

theorem Later.trans {a b c : World ι} (h : Later R clean a b) (h' : Later R clean b c) :
    Later R clean a c :=
  ⟨h.1.trans h'.1, fun hc => (h'.2 hc).trans (h.2 hc)⟩

/-- Nothing created for `o` is forgotten. -/
def Remembers (o : ι) (w w' : World ι) : Prop :=
  ∀ k u, (o, k, u) ∈ w.created → (o, k, u) ∈ w'.created

theorem Own.grows {w w' : World ι} {o : ι} {k : Kind} {id : String} (h : Own w o k id)
    (hg : Remembers o w w') : Own w' o k id := h.imp_right (hg k id)

theorem Later.grows {w w' : World ι} (h : Later R clean w w') :
    Remembers R.owner w w' := h.1.created

theorem May.grows {w w' : World ι} {k : Kind} {id : String} (h : May w R k id)
    (hg : Remembers R.owner w w') : May w' R k id := h.imp_left (·.grows hg)

theorem Remembers.trans {o : ι} {a b c : World ι} (h : Remembers o a b) (h' : Remembers o b c) :
    Remembers o a c := fun k u hu => h' k u (h k u hu)

theorem grows_create (w : World ι) (o : ι) (k : Kind) (i : Ident) :
    Remembers o w (w.create o k i) :=
  fun _ _ h => List.mem_cons_of_mem _ h

/-! ## Reads -/

section

variable {w : World ι} {s : σ} {k : Kind}

theorem get_spec {id : String}
    {Q : Except GoError (Except ApiError k.Resource) → σ → World ι → Prop}
    (hmay : k ≠ .serverGroup → May w R k id)
    (hok : ∀ w' r, Later R clean w w' → Inv slot w' → identOf r ∈ w'.cloud k → uuidOf r = id →
      Q (.ok (.ok r)) s w')
    (herr : ∀ w' e, Later R clean w w' → Inv slot w' →
      (clean → Faithful w' (.get k id) (.error e) w') → Q (.ok (.error e)) s w') :
    (api slot R clean).wpc Q (svcGet k id) s w := by
  refine wpc_perform.mpr fun w₁ hl hinv =>
    ⟨fun hk => (hmay hk).grows hl.grows, fun r w₂ hans hinv₂ => ?_⟩
  obtain ⟨hans, hf⟩ := hans
  cases hans with
  | get_ok found same => exact hok w₁ _ hl hinv found same
  | get_err => exact herr w₁ _ hl hinv hf

theorem list_spec {tags : TagMap}
    {Q : Except GoError (Except ApiError (List k.Resource)) → σ → World ι → Prop}
    (hslot : slot R.owner k tags)
    (hok : ∀ w' rs, Later R clean w w' → Inv slot w' → rs.map identOf = w'.listed k tags →
      Q (.ok (.ok rs)) s w')
    (herr : ∀ w' e, Later R clean w w' → Inv slot w' → (clean → k = .subnet → ¬ w'.Bare) →
      Q (.ok (.error e)) s w') :
    (api slot R clean).wpc Q (svcList k tags) s w := by
  refine wpc_perform.mpr fun w₁ hl hinv => ⟨hslot, fun r w₂ hans hinv₂ => ?_⟩
  obtain ⟨hans, hf⟩ := hans
  cases hans with
  | list_ok exact_ => exact hok w₁ _ hl hinv exact_
  | list_err => exact herr w₁ _ hl hinv fun hc => (hf hc).2

/-- A call that leaves the world as it is. -/
theorem perform_spec {op : Op} {Q : Except GoError op.Reply → σ → World ι → Prop}
    (hguard : ∀ w', Later R clean w w' → Guard slot R w' op)
    (hsame : ∀ w' r w'', Answers R.owner w' op r w'' → w'' = w')
    (h : ∀ w' r, Later R clean w w' → Inv slot w' → Answers R.owner w' op r w' → Q (.ok r) s w') :
    (api slot R clean).wpc Q (Proc.perform op) s w := by
  refine wpc_perform.mpr fun w₁ hl hinv => ⟨hguard w₁ hl, fun r w₂ hans hinv₂ => ?_⟩
  obtain rfl := hsame _ _ _ hans.1
  exact h w₂ r hl hinv hans.1

/-- A call that any role may make, and that leaves the world as it is. -/
def FreeCall : Op → Prop
  | .listMembers _ | .listMachines _ _ _ | .getSecret _ _ | .updateMember _ _ _
  | .updateFloatingIP _ _ => True
  | _ => False

/-- A step of free calls keeps what its frame says, while the world moves on by itself. -/
theorem later_of_frame {α β : Type} {f : σ → β} {P : Op → Prop} {m : Recon σ α} (hm : Frame f P m)
    (hP : ∀ op, P op → FreeCall op) (hinv : Inv slot w) :
    (api slot R clean).wpc (fun _ s' w' => f s' = f s ∧ Later R clean w w') m s w := by
  refine hm.preserves (J := fun s' w' => f s' = f s ∧ Later R clean w w') ?_ ?_ ?_ s w hinv
    ⟨rfl, .refl w⟩
  · exact fun _ _ _ hsame h => ⟨hsame.trans h.1, h.2⟩
  · exact fun _ _ _ h hl _ => ⟨h.1, h.2.trans hl⟩
  · intro s' w' op hop h _
    have hfree := hP op hop
    cases op with
    | listMembers | listMachines | getSecret | updateMember | updateFloatingIP =>
        refine ⟨trivial, fun r w'' hans _ => ?_⟩
        cases hans.1 <;> exact h
    | _ => exact hfree.elim

end

/-! ## Ensuring a resource -/

/-- The recorded resource is out of the way: there was none, or it is gone. -/
def Replaced (clean : Prop) (k : Kind) (currentID : String) (w : World ι) : Prop :=
  clean → currentID = "" ∨ w.Gone k currentID

/-- What `ensureResource` returned, in the world it returned in. -/
inductive Ensured (R : Role ι) (clean : Prop) (k : Kind) (currentID : String) (tags : TagMap) :
    Except GoError (Option k.Resource × String) → World ι → Prop where
  | error {e w} (h : clean → k = .subnet → ¬ w.Bare) : Ensured R clean k currentID tags (.error e) w
  | none {w} (empty : w.listed k tags = []) (h : Replaced clean k currentID w) :
      Ensured R clean k currentID tags (.ok (none, "")) w
  | found {r w} (exists_ : identOf r ∈ w.cloud k) (own : (R.owner, k, uuidOf r) ∈ w.created)
      (h : uuidOf r = currentID ∨ Replaced clean k currentID w) :
      Ensured R clean k currentID tags (.ok (some r, uuidOf r)) w

theorem adoptByTags_spec {w : World ι} {s : σ} {k : Kind} {currentID name : String}
    {tags : TagMap} (hslot : slot R.owner k tags) (hk : k ≠ .serverGroup)
    (hrep : Replaced clean k currentID w) :
    (api slot R clean).wpc
      (fun out s' w' => s' = s ∧ Later R clean w w' ∧ Ensured R clean k currentID tags out w')
      (adoptByTags k name tags) s w := by
  rw [adoptByTags, wpc_bind]
  refine list_spec hslot ?_ ?_
  · intro w' rs hl hinv hrs
    have hrep' : Replaced clean k currentID w' := fun hc => by
      rw [hl.2 hc]
      exact hrep hc
    rcases rs with _ | ⟨r, _ | ⟨r', rest⟩⟩
    · exact ⟨rfl, hl, .none hrs.symm hrep'⟩
    · have hr : identOf r ∈ w'.listed k tags := by simp [← hrs]
      obtain ⟨hmem, hm⟩ := List.mem_filter.mp hr
      have hown := hinv.owned _ _ _ hslot _ hmem hm
      rw [identOf_uuid] at hown
      exact ⟨rfl, hl, .found hmem hown (.inr hrep')⟩
    · -- the slot selects at most one resource
      have hlen := hinv.unique _ _ _ hslot hk
      rw [← hrs] at hlen
      simp at hlen
  · intro w' e hl _ hbare
    exact ⟨rfl, hl, .error hbare⟩

theorem ensureResource_spec {w : World ι} {s : σ} {k : Kind} {currentID name : String}
    {tags : TagMap} (hslot : slot R.owner k tags) (hk : k ≠ .serverGroup)
    (hown : Own w R.owner k currentID) :
    (api slot R clean).wpc
      (fun out s' w' => s' = s ∧ Later R clean w w' ∧ Ensured R clean k currentID tags out w')
      (ensureResource k currentID name tags) s w := by
  rw [ensureResource]
  by_cases hid : currentID = ""
  · simp only [hid, ne_eq, not_true_eq_false, if_false]
    exact adoptByTags_spec hslot hk fun _ => .inl rfl
  · simp only [hid, ne_eq, not_false_eq_true, if_true, wpc_bind]
    refine get_spec (fun _ => .inl hown) ?_ ?_
    · rintro w' r hl - hr rfl
      have hc : (R.owner, k, uuidOf r) ∈ w'.created :=
        hl.grows _ _ (hown.resolve_left hid)
      exact ⟨rfl, hl, .found hr hc (.inl rfl)⟩
    · intro w' e hl hinv hf
      -- deleted externally: the tags decide
      by_cases hnf : isNotFound e
      · have hrep : Replaced clean k currentID w' := fun hc => .inr ((hf hc).1 hnf)
        simp only [after_ok, hnf, if_true]
        refine wpc_mono hinv (adoptByTags_spec hslot hk hrep) ?_
        rintro out s' w'' - ⟨rfl, hl', hens⟩
        exact ⟨rfl, hl.trans hl', hens⟩
      · simp only [after_ok, hnf, if_false, Bool.false_eq_true]
        exact ⟨rfl, hl, .error fun hc hk => (hf hc).2 hk (by simpa using hnf)⟩

/-! ## Writes -/

/-- What a create returned. Without `clean` a create that reports an error may
have added a resource all the same. -/
inductive Created (R : Role ι) (clean : Prop) (k : Kind) (req : k.Request) (w : World ι) :
    Except GoError (Except Result k.Resource) → World ι → Prop where
  | ok {r w'} (grows : Remembers R.owner w w') (own : (R.owner, k, uuidOf r) ∈ w'.created)
      (exact_ : clean → w.Fresh k (uuidOf r) ∧ w' = w.create R.owner k (identOf r)) :
      Created R clean k req w (.ok (.ok r)) w'
  | failed {out w'} (grows : Remembers R.owner w w') (noResource : ∀ r, out ≠ .ok (.ok r))
      (exact_ : clean → w' = w ∧ (k = .subnet → ¬ w.Bare)) :
      Created R clean k req w out w'

theorem createResource_spec {w : World ι} {s : σ} {k : Kind} {req : k.Request} {what : String}
    {n : Nat} (hguard : ∀ w', Later R clean w w' → Inv slot w' → Guard slot R w' (.create k req)) :
    (api slot R clean).wpc (fun out s' w' => s' = s ∧ Created R clean k req w out w')
      (createResource k req what n) s w := by
  rw [createResource, wpc_bind]
  refine wpc_perform.mpr fun w₁ hl hinv => ⟨hguard w₁ hl hinv, fun r w₂ hans _ => ?_⟩
  obtain ⟨hans, hf⟩ := hans
  -- in either failing case the outcome depends on the error alone
  have hfail : ∀ e : ApiError, Remembers R.owner w w₂ →
      (clean → w₂ = w ∧ (k = .subnet → ¬ w.Bare)) →
      (api slot R clean).wpc (fun out s' w' => s' = s ∧ Created R clean k req w out w')
        (if isTimeoutError e then (pure (.error { requeueAfter := n }) :
            Recon σ (Except Result k.Resource))
          else Proc.fail (wrapApi ("creating " ++ what ++ ": ") e)) s w₂ := by
    intro e hg hx
    split
    · exact ⟨rfl, .failed hg (fun _ h => by cases h) hx⟩
    · exact ⟨rfl, .failed hg (fun _ h => by cases h) hx⟩
  cases hans with
  | @create_ok _ _ r fresh same parent =>
      have hown : (R.owner, k, uuidOf r) ∈ (w₁.create R.owner k (identOf r)).created := by
        rw [created_create, identOf_uuid]
        exact List.mem_cons_self
      refine ⟨rfl, .ok (hl.grows.trans (grows_create w₁ R.owner k (identOf r))) hown fun hc => ?_⟩
      obtain rfl := hl.2 hc
      exact ⟨fresh, rfl⟩
  | create_err =>
      refine hfail _ hl.grows fun hc => ?_
      have h := (hf hc).2
      obtain rfl := hl.2 hc
      exact ⟨rfl, h.2⟩
  | create_lost fresh parent =>
      refine hfail _ (hl.grows.trans (grows_create w₁ _ _ _)) fun hc => ?_
      have h := (hf hc).2
      obtain rfl := hl.2 hc
      exact ⟨h.1, h.2⟩

theorem delete_spec {w : World ι} {s : σ} {k : Kind} {id : String}
    {Q : Except GoError (Except ApiError Unit) → σ → World ι → Prop}
    (hown : (R.owner, k, id) ∈ w.created)
    (hok : ∀ w', Later R clean w w' → Inv slot w' → Q (.ok (.ok ())) s (w'.remove k id))
    (herr : ∀ w' w'' e, Later R clean w w' → Inv slot w'' → (w'' = w' ∨ w'' = w'.remove k id) →
      (clean → isNotFound e → w''.Gone k id) → Q (.ok (.error e)) s w'') :
    (api slot R clean).wpc Q (svcDelete k id) s w := by
  refine wpc_perform.mpr fun w₁ hl hinv => ⟨hl.grows _ _ hown, fun r w₂ hans hinv₂ => ?_⟩
  obtain ⟨hans, hf⟩ := hans
  cases hans with
  | delete_ok => exact hok w₁ hl hinv
  | delete_err => exact herr w₁ w₁ _ hl hinv (.inl rfl) fun hc => (hf hc).1
  | delete_lost => exact herr w₁ _ _ hl hinv₂ (.inr rfl) fun _ _ => gone_remove w₁ k id

end Capcs.Ownership
