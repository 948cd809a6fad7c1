import Capcs.Interaction.History

/-!
# Interaction.Sweep — loops that clean up a list of entries

A loop over a list of entries that makes some calls for each of them and keeps it, keeps it
with changes, or drops it, and that collects errors on the way. `Sweep R` puts what happens to
single entries (`R`) together in the order of the list: the calls, the entries that are left,
and the errors. `Swept.drop` and `Swept.keep` are the two ways in which such a loop goes on.
-/

namespace Interaction

variable {α E ε : Type}

/-- `Sweep R as t left errs`: the entries `as` are gone through one by one as `R` says, with the
calls `t`; `left` is what remains of them and `errs` are the errors. -/
inductive Sweep (R : α → List E → Option α → List ε → Prop) :
    List α → List E → List α → List ε → Prop where
  | nil : Sweep R [] [] [] []
  | cons {a : α} {as left : List α} {o : Option α} {t t' : List E} {errs errs' : List ε} :
      R a t o errs → Sweep R as t' left errs' →
      Sweep R (a :: as) (t ++ t') (o.toList ++ left) (errs ++ errs')

namespace Sweep

variable {R R' : α → List E → Option α → List ε → Prop} {as left : List α} {t : List E}
  {errs : List ε}

theorem mono (hR : ∀ a t o errs, R a t o errs → R' a t o errs) (h : Sweep R as t left errs) :
    Sweep R' as t left errs := by
  induction h with
  | nil => exact .nil
  | cons ha _ ih => exact .cons (hR _ _ _ _ ha) ih

/-- What is left is left of one of the entries. -/
theorem of_mem_left (h : Sweep R as t left errs) {x : α} (hx : x ∈ left) :
    ∃ a ∈ as, ∃ t' errs', R a t' (some x) errs' := by
  induction h with
  | nil => cases hx
  | @cons a as left o t t' errs errs' ha _ ih =>
      rcases List.mem_append.mp hx with hx | hx
      · rw [Option.mem_toList] at hx
        exact ⟨a, List.mem_cons_self, t, errs, Option.mem_def.mp hx ▸ ha⟩
      · obtain ⟨b, hb, hrest⟩ := ih hx
        exact ⟨b, List.mem_cons_of_mem _ hb, hrest⟩

/-- Entries that keep their keys are left in the order of the list. -/
theorem keys_sublist {κ : Type} {key : α → κ}
    (hR : ∀ a t x errs, R a t (some x) errs → key x = key a) (h : Sweep R as t left errs) :
    (left.map key).Sublist (as.map key) := by
  induction h with
  | nil => exact .slnil
  | @cons a as left o t t' errs errs' ha _ ih =>
      cases o with
      | none => exact ih.cons _
      | some x =>
          rw [Option.toList_some, List.singleton_append, List.map_cons, List.map_cons,
            hR a t x errs ha]
          exact ih.cons_cons _

/-- Every entry has been gone through, with calls and errors among those of the loop. -/
theorem of_mem (h : Sweep R as t left errs) {a : α} (ha : a ∈ as) :
    ∃ t' o errs', R a t' o errs' ∧ t' ⊆ t ∧ o.toList ⊆ left ∧ errs' ⊆ errs := by
  induction h with
  | nil => cases ha
  | @cons b as left o t t' errs errs' hb _ ih =>
      rcases List.mem_cons.mp ha with rfl | ha
      · exact ⟨t, o, errs, hb, List.subset_append_left .., List.subset_append_left ..,
          List.subset_append_left ..⟩
      · obtain ⟨t₁, o₁, errs₁, hR, ht, hleft, herrs⟩ := ih ha
        exact ⟨t₁, o₁, errs₁, hR, List.subset_append_of_subset_right _ ht,
          List.subset_append_of_subset_right _ hleft, List.subset_append_of_subset_right _ herrs⟩

/-- Every call was made for one of the entries. -/
theorem of_mem_calls (h : Sweep R as t left errs) {e : E} (he : e ∈ t) :
    ∃ a ∈ as, ∃ t' o errs', R a t' o errs' ∧ e ∈ t' ∧ t' ⊆ t := by
  induction h with
  | nil => cases he
  | @cons a as left o t t' errs errs' ha _ ih =>
      rcases List.mem_append.mp he with he | he
      · exact ⟨a, List.mem_cons_self, t, o, errs, ha, he, List.subset_append_left t t'⟩
      · obtain ⟨b, hb, t₁, o₁, errs₁, hR, he, hsub⟩ := ih he
        exact ⟨b, List.mem_cons_of_mem _ hb, t₁, o₁, errs₁, hR, he,
          List.subset_append_of_subset_right t hsub⟩

/-- If the errors of an entry say whether what is left of it has `P`, then so do all errors. -/
theorem errs_eq_nil_iff {P : α → Prop}
    (hR : ∀ a t o errs, R a t o errs → (errs = [] ↔ ∀ x ∈ o, P x)) (h : Sweep R as t left errs) :
    errs = [] ↔ ∀ x ∈ left, P x := by
  induction h with
  | nil => simp
  | @cons a as left o t t' errs errs' ha _ ih =>
      rw [List.append_eq_nil_iff, hR _ _ _ _ ha, ih]
      constructor
      · rintro ⟨ho, hleft⟩ x hx
        rcases List.mem_append.mp hx with hx | hx
        · exact ho x (Option.mem_toList.mp hx)
        · exact hleft x hx
      · intro hall
        exact ⟨fun x hx => hall x (List.mem_append_left _ (Option.mem_toList.mpr hx)),
          fun x hx => hall x (List.mem_append_right _ hx)⟩

end Sweep

section Loop

variable {Op : Type} {Reply : Op → Type} {good : (op : Op) → Reply op → Prop} {σ : Type} {s : σ}
  {R : α → History Op Reply → Option α → List ε → Prop}
  {Z : List α → History Op Reply → ε → Prop} {a x : α} {as : List α} {h h₁ t : History Op Reply}
  {es : List ε} {m : Proc Op Reply σ ε (List α × List ε)}

/-- How a loop from `s` and `h` ends: all entries are swept, or it breaks off as `Z` says. -/
def Swept (R : α → History Op Reply → Option α → List ε → Prop)
    (Z : List α → History Op Reply → ε → Prop) (as : List α) (s : σ) (h : History Op Reply)
    (out : Except ε (List α × List ε)) (s' : σ) (h' : History Op Reply) : Prop :=
  s' = s ∧ ∃ t, h' = h ++ t ∧
    ((∃ left errs, out = .ok (left, errs) ∧ Sweep R as t left errs) ∨
      ∃ err, out = .error err ∧ Z as t err)

/-- The first entry is dropped. -/
theorem Swept.drop (hZ : ∀ t' err, Z as t' err → Z (a :: as) (t ++ t') err)
    (hrest : ∀ h, (history good).wpc (Swept R Z as s h) m s h) (hR : R a t none []) :
    (history good).wpc (Swept R Z (a :: as) s h) m s (h ++ t) := by
  refine Contract.wpc_imp (hrest _) ?_
  rintro out _ _ ⟨rfl, t', rfl, ⟨left, errs, rfl, hs⟩ | ⟨err, rfl, hz⟩⟩
  · exact ⟨rfl, t ++ t', by simp, .inl ⟨left, errs, rfl, .cons hR hs⟩⟩
  · exact ⟨rfl, t ++ t', by simp, .inr ⟨err, rfl, hZ t' err hz⟩⟩

/-- Something is left of the first entry. -/
theorem Swept.keep {k : List α × List ε → Proc Op Reply σ ε (List α × List ε)}
    (hZ : ∀ t' err, Z as t' err → Z (a :: as) (t ++ t') err)
    (hrest : ∀ h, (history good).wpc (Swept R Z as s h) m s h) (heq : h₁ = h ++ t)
    (hR : R a t (some x) es) (hk : ∀ left errs, k (left, errs) = pure (x :: left, es ++ errs)) :
    (history good).wpc (Swept R Z (a :: as) s h) (m >>= k) s h₁ := by
  subst heq
  refine Contract.wpc_seq (hrest _) ?_
  rintro out _ _ ⟨rfl, t', rfl, ⟨left, errs, rfl, hs⟩ | ⟨err, rfl, hz⟩⟩
  · rw [Contract.after_ok, hk]
    exact ⟨rfl, t ++ t', by simp, .inl ⟨_, _, rfl, .cons hR hs⟩⟩
  · exact ⟨rfl, t ++ t', by simp, .inr ⟨err, rfl, hZ t' err hz⟩⟩

end Loop

end Interaction
