import Capcs.Interaction.Accepted
import Capcs.Interaction.Sweep
import Mathlib.Data.Set.Basic

/-!
# Interaction.Cleanup — taking away what is to go, in any number of attempts

A cleaner keeps records of what it still has to take away. `Cleans A A' E E'` is what one attempt
may do: of what is there (`E`) it takes only what is to go (`A`), and afterwards the records name
the same things as before among those that are still there. Attempts compose, side by side
(`Cleans.seq`) and one after the other (`Cleans.trans`), and however many there are and whatever
they leave undone, what will be left in the end is the same (`Cleans.rest`).
-/

namespace Interaction

variable {τ α : Type}

/-- One attempt takes `E` to `E'`, and the records of what is to go from `A` to `A'`. -/
structure Cleans (A A' E E' : Set τ) : Prop where
  shrinks : E' ⊆ E
  taken : ∀ x ∈ E, x ∉ E' → x ∈ A
  left : ∀ x ∈ E', x ∈ A ↔ x ∈ A'

namespace Cleans

variable {A A' A'' B B' E E' E'' : Set τ}

/-- Only the records change, and they still name the same things. -/
theorem rename (h : ∀ x ∈ E, x ∈ A ↔ x ∈ A') : Cleans A A' E E :=
  ⟨subset_rfl, fun _ hx hnot => absurd hx hnot, h⟩

theorem refl (A E : Set τ) : Cleans A A E E := .rename fun _ _ => Iff.rfl

/-- The records are not updated. -/
theorem unrecorded (h : Cleans A A' E E') (hA : A ⊆ B) : Cleans B B E E' :=
  ⟨h.shrinks, fun x hx hnot => hA (h.taken x hx hnot), fun _ _ => Iff.rfl⟩

/-- Two sets of records, worked on one after the other. -/
theorem seq (h : Cleans A A' E E') (h' : Cleans B B' E' E'') : Cleans (A ∪ B) (A' ∪ B') E E'' where
  shrinks := h'.shrinks.trans h.shrinks
  taken x hx hnot := by
    by_cases hmem : x ∈ E'
    · exact .inr (h'.taken x hmem hnot)
    · exact .inl (h.taken x hx hmem)
  left x hx := or_congr (h.left x (h'.shrinks hx)) (h'.left x hx)

/-- What is recorded beside stays. -/
theorem frame (h : Cleans A A' E E') (B : Set τ) : Cleans (A ∪ B) (A' ∪ B) E E' :=
  h.seq (.refl B E')

/-- One attempt after the other. -/
theorem trans (h : Cleans A A' E E') (h' : Cleans A' A'' E' E'') : Cleans A A'' E E'' where
  shrinks := h'.shrinks.trans h.shrinks
  taken x hx hnot := by
    by_cases hmem : x ∈ E'
    · exact (h.left x hmem).mpr (h'.taken x hmem hnot)
    · exact h.taken x hx hmem
  left x hx := (h.left x (h'.shrinks hx)).trans (h'.left x hx)

/-- What is not to go stays, also with the records of before. -/
theorem kept (h : Cleans A A' E E') : E' \ A = E \ A := by
  ext x
  constructor
  · rintro ⟨hx, hnot⟩
    exact ⟨h.shrinks hx, hnot⟩
  · rintro ⟨hx, hnot⟩
    refine ⟨?_, hnot⟩
    by_contra hgone
    exact hnot (h.taken x hx hgone)

/-- What is neither taken nor to go. -/
theorem rest (h : Cleans A A' E E') : E' \ A' = E \ A := by
  rw [← h.kept]
  ext x
  exact and_congr_right fun hx => not_congr (h.left x hx).symm

theorem congr (h : Cleans A A' E E') (hA : A = B) (hA' : A' = B') : Cleans B B' E E' := hA ▸ hA' ▸ h

end Cleans

/-- Records in several places, of which one is worked on. -/
theorem Cleans.place {ι : Type} {A A' : ι → Set τ} {E E' : Set τ} {i : ι}
    (h : Cleans (A i) (A' i) E E') (hother : ∀ j, j ≠ i → A' j = A j) :
    Cleans {x | ∃ j, x ∈ A j} {x | ∃ j, x ∈ A' j} E E' where
  shrinks := h.shrinks
  taken x hx hnot := ⟨i, h.taken x hx hnot⟩
  left x hx := by
    refine exists_congr fun j => ?_
    by_cases hj : j = i
    · rw [hj]
      exact h.left x hx
    · rw [hother j hj]

/-! ## Records in a list -/

/-- What the records of a list name together. -/
def allOf (aim : α → Set τ) (as : List α) : Set τ := {x | ∃ a ∈ as, x ∈ aim a}

variable {aim : α → Set τ}

@[simp] theorem allOf_nil : allOf aim [] = ∅ := by simp [allOf]

theorem allOf_cons (a : α) (as : List α) : allOf aim (a :: as) = aim a ∪ allOf aim as := by
  ext x
  simp [allOf]

theorem allOf_append (as bs : List α) : allOf aim (as ++ bs) = allOf aim as ∪ allOf aim bs := by
  ext x
  simp [allOf, or_and_right, exists_or]

@[simp] theorem allOf_singleton (a : α) : allOf aim [a] = aim a := by
  rw [allOf_cons, allOf_nil, Set.union_empty]

section Sweeps

variable {W Op ε : Type} {Reply : Op → Type} {answer : W → (op : Op) → Reply op → W → Prop}
  {R : α → List (Program.Event Op Reply) → Option α → List ε → Prop} {V : W → Set τ}
  {I : W → Prop} {as left : List α} {t : List (Program.Event Op Reply)} {errs : List ε} {w w' : W}

/-- A loop over the records cleans up if it does for each of them, and has no errors if none of
them has. -/
theorem Sweep.cleans {clean : Prop} (hI : ∀ w w', I w → V w' ⊆ V w → I w')
    (hR : ∀ a t o errs w w', R a t o errs → I w → Program.Accepted answer w t w' →
      Cleans (aim a) (allOf aim o.toList) (V w) (V w') ∧ (clean → errs = []))
    (hs : Sweep R as t left errs) (hw : I w) (hacc : Program.Accepted answer w t w') :
    Cleans (allOf aim as) (allOf aim left) (V w) (V w') ∧ (clean → errs = []) := by
  induction hs generalizing w with
  | nil =>
      rw [Program.accepted_nil] at hacc
      rw [hacc]
      exact ⟨.refl _ _, fun _ => rfl⟩
  | cons ha _ ih =>
      obtain ⟨w₁, hacc₁, hacc₂⟩ := Program.accepted_append.mp hacc
      obtain ⟨hhead, hquiet⟩ := hR _ _ _ _ _ _ ha hw hacc₁
      obtain ⟨hrest, hquiet'⟩ := ih (hI _ _ hw hhead.shrinks) hacc₂
      rw [allOf_cons, allOf_append]
      exact ⟨hhead.seq hrest, fun h => List.append_eq_nil_iff.mpr ⟨hquiet h, hquiet' h⟩⟩

end Sweeps

end Interaction
