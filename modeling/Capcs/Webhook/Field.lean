import Mathlib.Tactic.Common

/-!
# Capcs.Webhook.Field — field errors

The part of `k8s.io/apimachinery/pkg/util/validation/field` the webhooks use. A
path is kept as the text it prints as.
-/

namespace Capcs.Webhook

/-- `field.Path`. -/
abbrev Path := String

/-- `Path.Child`. -/
def Path.child (p : Path) (name : String) : Path := p ++ "." ++ name

/-- `Path.Index`. -/
def Path.index (p : Path) (i : Nat) : Path := p ++ "[" ++ toString i ++ "]"

/-- `Path.Key`. -/
def Path.key (p : Path) (key : String) : Path := p ++ "[" ++ key ++ "]"

/-- `field.ErrorType`. -/
inductive ErrorType where
  | duplicate
  | forbidden
  | invalid
  | notFound
  | required
  | tooMany
  deriving DecidableEq, Repr

/-- `field.Error`. -/
structure FieldError where
  type : ErrorType
  field : Path
  badValue : String := ""
  detail : String := ""
  deriving DecidableEq, Repr

/-- `field.ErrorList`. -/
abbrev ErrorList := List FieldError

namespace FieldError

def duplicate (p : Path) (value : String) : FieldError :=
  { type := .duplicate, field := p, badValue := value }

def forbidden (p : Path) (detail : String) : FieldError :=
  { type := .forbidden, field := p, detail }

def invalid (p : Path) (value detail : String) : FieldError :=
  { type := .invalid, field := p, badValue := value, detail }

def notFound (p : Path) (value : String) : FieldError :=
  { type := .notFound, field := p, badValue := value }

def required (p : Path) (detail : String) : FieldError :=
  { type := .required, field := p, detail }

def tooMany (p : Path) (actual maxCount : Nat) : FieldError :=
  { type := .tooMany, field := p, badValue := toString actual,
    detail := "must have at most " ++ toString maxCount ++ " item" }

end FieldError

/-- One error if a condition holds. -/
def errorIf (cond : Prop) [Decidable cond] (err : FieldError) : ErrorList :=
  if cond then [err] else []

@[simp] theorem errorIf_eq_nil {cond : Prop} [Decidable cond] {err : FieldError} :
    errorIf cond err = [] ↔ ¬ cond := by
  unfold errorIf
  split <;> simp_all

/-- The errors of a loop over a list, each entry with its index. -/
def errorsAt {α : Type} (f : α → Nat → ErrorList) (l : List α) : ErrorList :=
  l.zipIdx.flatMap fun p => f p.1 p.2

theorem errorsAt_eq_nil {α : Type} {f : α → Nat → ErrorList} {l : List α}
    (h : errorsAt f l = []) {a : α} (ha : a ∈ l) : ∃ i, f a i = [] := by
  obtain ⟨i, hi, rfl⟩ := List.mem_iff_getElem.mp ha
  refine ⟨i, List.flatMap_eq_nil_iff.mp h (l[i], i) ?_⟩
  simp [List.mem_zipIdx_iff_getElem?]

/-! ## Paths in errors -/

/-- Whether a check reports errors does not depend on the path it reports them at. -/
def PathBlind (check : Path → ErrorList) : Prop := ∀ p q, check p = [] → check q = []

namespace PathBlind

variable {f g : Path → ErrorList}

theorem nil : PathBlind fun _ => [] := fun _ _ h => h

theorem errorIf {cond : Prop} [Decidable cond] {err : Path → FieldError} :
    PathBlind fun p => errorIf cond (err p) := fun _ _ h => errorIf_eq_nil.mpr (errorIf_eq_nil.mp h)

theorem singleton {err : Path → FieldError} : PathBlind fun p => [err p] :=
  fun _ _ h => absurd h (List.cons_ne_nil _ _)

theorem append (hf : PathBlind f) (hg : PathBlind g) : PathBlind fun p => f p ++ g p := by
  intro p q h
  obtain ⟨h₁, h₂⟩ := List.append_eq_nil_iff.mp h
  exact List.append_eq_nil_iff.mpr ⟨hf p q h₁, hg p q h₂⟩

theorem ite {cond : Prop} [Decidable cond] (hf : PathBlind f) (hg : PathBlind g) :
    PathBlind fun p => if cond then f p else g p := by
  by_cases hcond : cond
  · simpa only [if_pos hcond] using hf
  · simpa only [if_neg hcond] using hg

/-- A check below a path. -/
theorem below (hf : PathBlind f) (sub : Path → Path) : PathBlind fun p => f (sub p) :=
  fun p q h => hf (sub p) (sub q) h

theorem errorsAt {α : Type} {check : α → Path → ErrorList} (h : ∀ a, PathBlind (check a))
    (l : List α) : PathBlind fun p => errorsAt (fun a i => check a (p.index i)) l := by
  intro p q hnil
  refine List.flatMap_eq_nil_iff.mpr fun e he => ?_
  exact h e.1 _ _ (List.flatMap_eq_nil_iff.mp hnil e he)

end PathBlind

/-- A Go map filled from a list, keyed by `key`: the last entry of a key, with its
index. -/
def lastByKey {α : Type} (key : α → String) (l : List α) (k : String) : Option (α × Nat) :=
  (l.zipIdx.filter fun p => key p.1 = k).getLast?

theorem mem_of_lastByKey {α : Type} {key : α → String} {l : List α} {k : String} {p : α × Nat}
    (h : lastByKey key l k = some p) : p.1 ∈ l ∧ key p.1 = k := by
  obtain ⟨hmem, hkey⟩ := List.mem_filter.mp (List.mem_of_getLast? h)
  refine ⟨?_, by simpa using hkey⟩
  exact List.mem_of_getElem? (List.mem_zipIdx_iff_getElem?.mp hmem)

theorem exists_lastByKey {α : Type} {key : α → String} {l : List α} {a : α} (ha : a ∈ l) :
    ∃ p, lastByKey key l (key a) = some p := by
  cases h : lastByKey key l (key a) with
  | some p => exact ⟨p, rfl⟩
  | none =>
      obtain ⟨i, hi, rfl⟩ := List.mem_iff_getElem.mp ha
      have hnil := List.getLast?_eq_none_iff.mp h
      have hmem : (l[i], i) ∈ l.zipIdx := by simp [List.mem_zipIdx_iff_getElem?]
      exact absurd (List.filter_eq_nil_iff.mp hnil _ hmem) (by simp)

end Capcs.Webhook
