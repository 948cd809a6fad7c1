import Capcs.Keyed.Upsert
import Mathlib.Data.List.Nodup

/-!
# Keyed.Mirror — lists that follow another list

`Mirrors key R as bs`: the entries `bs` have distinct keys, and each of them stands in relation
`R` to some element of `as`. Upserting and updating keep this as long as the written entry has a
counterpart; so does leaving entries out.
-/

namespace Keyed

variable {α β κ : Type}

structure Mirrors (key : β → κ) (R : α → β → Prop) (as : List α) (bs : List β) : Prop where
  nodup : (bs.map key).Nodup
  each : ∀ b ∈ bs, ∃ a ∈ as, R a b

variable {key : β → κ}

namespace Mirrors

variable {R : α → β → Prop} {as : List α} {bs : List β}

protected theorem nil : Mirrors key R as [] := ⟨List.nodup_nil, by simp⟩

/-- Another list to follow, or another relation. -/
theorem mono {α' : Type} {R' : α' → β → Prop} {as' : List α'} (h : Mirrors key R as bs)
    (hR : ∀ a ∈ as, ∀ b, R a b → ∃ a' ∈ as', R' a' b) : Mirrors key R' as' bs := by
  refine ⟨h.nodup, fun b hb => ?_⟩
  obtain ⟨a, ha, hab⟩ := h.each b hb
  exact hR a ha b hab

/-- The counterpart of an entry is the one of its key. -/
theorem unique {keyOf : α → κ} (h : Mirrors key R as bs) (hR : ∀ a b, R a b → key b = keyOf a)
    (hnodup : (as.map keyOf).Nodup) {a : α} {b : β} (ha : a ∈ as) (hb : b ∈ bs)
    (hk : key b = keyOf a) : R a b := by
  obtain ⟨a', ha', hab⟩ := h.each b hb
  have hsame : a' = a := List.inj_on_of_nodup_map hnodup ha' ha ((hR a' b hab).symm.trans hk)
  exact hsame ▸ hab

/-- Entries may go, and those that stay may change as long as they keep their counterparts. -/
theorem shrink {left : List β} (h : Mirrors key R as bs)
    (hkeys : (left.map key).Sublist (bs.map key))
    (hleft : ∀ x ∈ left, ∃ b ∈ bs, ∀ a ∈ as, R a b → R a x) : Mirrors key R as left := by
  refine ⟨hkeys.nodup h.nodup, fun x hx => ?_⟩
  obtain ⟨b, hb, hkeep⟩ := hleft x hx
  obtain ⟨a, ha, hab⟩ := h.each b hb
  exact ⟨a, ha, hkeep a ha hab⟩

end Mirrors

/-! ## Keys of updated lists -/

variable [DecidableEq κ] {k : κ} {f : β → β} {new : β}

theorem mem_map_upsertFirst (hf : ∀ b, key (f b) = key b) (hnew : key new = k) {bs : List β} {x : κ}
    (hx : x ∈ (upsertFirst (fun b => key b = k) f new bs).map key) : x ∈ bs.map key ∨ x = k := by
  obtain ⟨b, hb, rfl⟩ := List.mem_map.mp hx
  rcases mem_upsertFirst hb with hb | rfl | ⟨a, ha, -, rfl⟩
  · exact .inl (List.mem_map_of_mem hb)
  · exact .inr hnew
  · rw [hf]
    exact .inl (List.mem_map_of_mem ha)

/-- Upserting by key keeps keys distinct. -/
theorem nodup_upsertFirst (hf : ∀ b, key (f b) = key b) (hnew : key new = k) {bs : List β}
    (h : (bs.map key).Nodup) : ((upsertFirst (fun b => key b = k) f new bs).map key).Nodup := by
  induction bs with
  | nil => simp [upsertFirst]
  | cons b bs ih =>
      rw [List.map_cons, List.nodup_cons] at h
      rw [upsertFirst]
      by_cases hk : key b = k
      · -- the entry is edited in place
        rw [if_pos (by simpa using hk), List.map_cons, hf, List.nodup_cons]
        exact h
      · rw [if_neg (by simpa using hk), List.map_cons, List.nodup_cons]
        refine ⟨fun hmem => ?_, ih h.2⟩
        rcases mem_map_upsertFirst hf hnew hmem with hmem | hsame
        · exact h.1 hmem
        · exact hk hsame

/-! ## Writing entries -/

namespace Mirrors

variable {R : α → β → Prop} {as : List α} {bs : List β}

theorem upsert (h : Mirrors key R as bs) (hf : ∀ b, key (f b) = key b) (hnew : key new = k)
    (hRf : ∀ b ∈ bs, key b = k → ∃ a ∈ as, R a (f b)) (hRnew : ∃ a ∈ as, R a new) :
    Mirrors key R as (upsertFirst (fun b => key b = k) f new bs) := by
  refine ⟨nodup_upsertFirst hf hnew h.nodup, fun b hb => ?_⟩
  rcases mem_upsertFirst hb with hb | rfl | ⟨b', hb', hk, rfl⟩
  · exact h.each b hb
  · exact hRnew
  · exact hRf b' hb' (by simpa using hk)

theorem update (h : Mirrors key R as bs) (hf : ∀ b, key (f b) = key b)
    (hRf : ∀ b ∈ bs, key b = k → ∃ a ∈ as, R a (f b)) :
    Mirrors key R as (updateFirst (fun b => key b = k) f bs) := by
  constructor
  · rw [map_updateFirst fun b _ => hf b]
    exact h.nodup
  · intro b hb
    rcases mem_updateFirst hb with hb | ⟨b', hb', hk, rfl⟩
    · exact h.each b hb
    · exact hRf b' hb' (by simpa using hk)

end Mirrors

end Keyed
