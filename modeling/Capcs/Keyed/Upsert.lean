import Mathlib.Tactic.Common

/-!
# Keyed.Upsert — lists used as maps

A list with a key in each entry, searched from the front: `find?` reads the first
entry of a key, `updateFirst` edits it in place, and `upsertFirst` appends a new
entry when there is none. Later entries of the same key are left alone, which is
what a loop with an early return does.
-/

namespace Keyed

variable {α : Type}

/-- Edit the first entry that satisfies `p`. -/
def updateFirst (p : α → Bool) (f : α → α) : List α → List α
  | [] => []
  | a :: as => if p a then f a :: as else a :: updateFirst p f as

/-- Edit the first entry that satisfies `p`, or append `new`. -/
def upsertFirst (p : α → Bool) (f : α → α) (new : α) : List α → List α
  | [] => [new]
  | a :: as => if p a then f a :: as else a :: upsertFirst p f new as

variable {p q : α → Bool} {f : α → α} {new : α}

/-! ## Updating -/

/-- Where an entry of the updated list comes from. -/
theorem mem_updateFirst {b : α} {l : List α} (h : b ∈ updateFirst p f l) :
    b ∈ l ∨ ∃ a ∈ l, p a ∧ b = f a := by
  induction l with
  | nil => exact .inl h
  | cons a as ih =>
      by_cases hp : p a
      · rcases List.mem_cons.mp (by simpa [updateFirst, hp] using h : b ∈ f a :: as) with rfl | hb
        · exact .inr ⟨a, List.mem_cons_self, hp, rfl⟩
        · exact .inl (List.mem_cons_of_mem _ hb)
      · rcases List.mem_cons.mp (by simpa [updateFirst, hp] using h : b ∈ a :: updateFirst p f as)
          with rfl | hb
        · exact .inl List.mem_cons_self
        · exact (ih hb).imp (List.mem_cons_of_mem _)
            fun ⟨c, hc, hpc⟩ => ⟨c, List.mem_cons_of_mem _ hc, hpc⟩

/-- An entry stays, or it is the first one and shows up edited. -/
theorem mem_updateFirst_or {a : α} {l : List α} (h : a ∈ l) :
    a ∈ updateFirst p f l ∨ (p a ∧ f a ∈ updateFirst p f l) := by
  induction l with
  | nil => cases h
  | cons b bs ih =>
      by_cases hp : p b
      · rcases List.mem_cons.mp h with rfl | h
        · exact .inr ⟨hp, by simp [updateFirst, hp]⟩
        · exact .inl (by simp [updateFirst, hp, h])
      · rcases List.mem_cons.mp h with rfl | h
        · exact .inl (by simp [updateFirst, hp])
        · have hcons : updateFirst p f (b :: bs) = b :: updateFirst p f bs := by
            simp [updateFirst, hp]
          rw [hcons]
          exact (ih h).imp (List.mem_cons_of_mem _)
            fun h => ⟨h.1, List.mem_cons_of_mem _ h.2⟩

theorem find?_updateFirst_self (hf : ∀ a, p a → p (f a)) (l : List α) :
    (updateFirst p f l).find? p = (l.find? p).map f := by
  induction l with
  | nil => rfl
  | cons a as ih =>
      by_cases hp : p a
      · simp [updateFirst, hp, hf a hp]
      · simp [updateFirst, hp, ih]

theorem find?_updateFirst_of_disjoint (hf : ∀ a, p a → q a = false ∧ q (f a) = false)
    (l : List α) : (updateFirst p f l).find? q = l.find? q := by
  induction l with
  | nil => rfl
  | cons a as ih =>
      by_cases hp : p a
      · simp [updateFirst, hp, hf a hp]
      · by_cases hq : q a
        · simp [updateFirst, hp, hq]
        · simp [updateFirst, hp, hq, ih]

/-- An update that leaves a view of the entries alone leaves the view of the list. -/
theorem map_updateFirst {β : Type} {g : α → β} (hg : ∀ a, p a → g (f a) = g a) {l : List α} :
    (updateFirst p f l).map g = l.map g := by
  induction l with
  | nil => rfl
  | cons a as ih =>
      by_cases hp : p a
      · simp [updateFirst, hp, hg a hp]
      · simp [updateFirst, hp, ih]

/-- An update that does not change the entry it finds. -/
theorem updateFirst_same {a : α} {l : List α} (ha : l.find? p = some a) (hf : f a = a) :
    updateFirst p f l = l := by
  induction l with
  | nil => rfl
  | cons b bs ih =>
      by_cases hp : p b
      · obtain rfl : b = a := by simpa [hp] using ha
        simp [updateFirst, hp, hf]
      · have htail : bs.find? p = some a := by simpa [hp] using ha
        simp [updateFirst, hp, ih htail]

/-! ## Upserting -/

/-- Where an entry of the upserted list comes from. -/
theorem mem_upsertFirst {b : α} {l : List α} (h : b ∈ upsertFirst p f new l) :
    b ∈ l ∨ b = new ∨ ∃ a ∈ l, p a ∧ b = f a := by
  induction l with
  | nil => exact .inr (.inl (by simpa [upsertFirst] using h))
  | cons a as ih =>
      by_cases hp : p a
      · rcases List.mem_cons.mp (by simpa [upsertFirst, hp] using h : b ∈ f a :: as) with rfl | hb
        · exact .inr (.inr ⟨a, List.mem_cons_self, hp, rfl⟩)
        · exact .inl (List.mem_cons_of_mem _ hb)
      · rcases List.mem_cons.mp
          (by simpa [upsertFirst, hp] using h : b ∈ a :: upsertFirst p f new as) with rfl | hb
        · exact .inl List.mem_cons_self
        · exact (ih hb).imp (List.mem_cons_of_mem _)
            (Or.imp_right fun ⟨c, hc, hpc⟩ => ⟨c, List.mem_cons_of_mem _ hc, hpc⟩)

/-- An entry stays unless it is the first one. -/
theorem mem_upsertFirst_or {a : α} {l : List α} (h : a ∈ l) :
    a ∈ upsertFirst p f new l ∨ l.find? p = some a := by
  induction l with
  | nil => cases h
  | cons b bs ih =>
      by_cases hp : p b
      · rcases List.mem_cons.mp h with rfl | h
        · exact .inr (by simp [hp])
        · exact .inl (by simp [upsertFirst, hp, h])
      · rcases List.mem_cons.mp h with rfl | h
        · exact .inl (by simp [upsertFirst, hp])
        · have hcons : upsertFirst p f new (b :: bs) = b :: upsertFirst p f new bs := by
            simp [upsertFirst, hp]
          rw [hcons, List.find?_cons_of_neg hp]
          exact (ih h).imp_left (List.mem_cons_of_mem _)

/-- The upserted entry is there. -/
theorem mem_upsertFirst_self (p : α → Bool) (f : α → α) (new : α) (l : List α) :
    (l.find? p).elim new f ∈ upsertFirst p f new l := by
  induction l with
  | nil => simp [upsertFirst]
  | cons a as ih =>
      by_cases hp : p a
      · simp [upsertFirst, hp]
      · simpa [upsertFirst, hp] using .inr ih

/-- An entry with a property is still there if editing the first one keeps the property. -/
theorem exists_mem_upsertFirst {Q : α → Prop} {l : List α} (h : ∃ a ∈ l, Q a)
    (hf : ∀ a, l.find? p = some a → Q a → Q (f a)) : ∃ a ∈ upsertFirst p f new l, Q a := by
  obtain ⟨a, ha, hQ⟩ := h
  rcases mem_upsertFirst_or (f := f) (p := p) (l := l) ha with hmem | hfirst
  · exact ⟨a, hmem, hQ⟩
  · have hself := mem_upsertFirst_self p f new l
    rw [hfirst] at hself
    exact ⟨f a, hself, hf a hfirst hQ⟩

/-- Reading back the upserted entry. -/
theorem find?_upsertFirst_self {e : α} (hf : ∀ a, p a → p (f a)) (hnew : p e) (l : List α) :
    (upsertFirst p f e l).find? p = some ((l.find? p).elim e f) := by
  induction l with
  | nil => simp [upsertFirst, hnew]
  | cons a as ih =>
      by_cases hp : p a
      · simp [upsertFirst, hp, hf a hp]
      · simp [upsertFirst, hp, ih]

/-- An upsert of an entry that is there is an update. -/
theorem upsertFirst_of_find {a : α} {l : List α} (ha : l.find? p = some a) :
    upsertFirst p f new l = updateFirst p f l := by
  induction l with
  | nil => cases ha
  | cons b bs ih =>
      by_cases hp : p b
      · simp [upsertFirst, updateFirst, hp]
      · have htail : bs.find? p = some a := by simpa [hp] using ha
        simp [upsertFirst, updateFirst, hp, ih htail]

/-- Entries of other keys are read as before. -/
theorem find?_upsertFirst_of_disjoint (hf : ∀ a, p a → q a = false ∧ q (f a) = false)
    (hnew : q new = false) (l : List α) : (upsertFirst p f new l).find? q = l.find? q := by
  induction l with
  | nil => simp [upsertFirst, hnew]
  | cons a as ih =>
      by_cases hp : p a
      · simp [upsertFirst, hp, hf a hp]
      · by_cases hq : q a
        · simp [upsertFirst, hp, hq]
        · simp [upsertFirst, hp, hq, ih]

end Keyed
