import Capcs.Interaction.Contract
import Mathlib.Logic.Function.Basic
import Mathlib.Logic.Relation

/-!
# Interaction.Runtime — programs running side by side

A `Runtime` starts programs in named slots, lets their requests interleave one
by one, and takes over what they return. Between requests the surroundings may
move, and a program may be cut off at any point.

The main result is `Obligations.reachable`: if every slot's program meets its
contract when it starts, and every move of one slot is within what the others
rely on, then the world invariant holds in every reachable configuration and
every program still running still meets its contract. `Obligations.guarded`
reads off that no request ever goes out without its guard.
-/

namespace Interaction

open Relation (ReflTransGen)

/-- The surroundings of a set of programs, one slot per `i : ι`. -/
structure Runtime (W ι Op : Type) (Reply : Op → Type) (α : Type) where
  /-- A program may be started in slot `i`. -/
  start : W → ι → Program Op Reply α → W → Prop
  /-- The world answers a request of slot `i`. -/
  answer : ι → W → (op : Op) → Reply op → W → Prop
  /-- The result of slot `i` is taken over. -/
  finish : W → ι → α → W → Prop
  /-- The program in slot `i` is cut off. -/
  crash : W → ι → W → Prop
  /-- A move of the surroundings. -/
  env : W → W → Prop

namespace Runtime

variable {W ι Op : Type} {Reply : Op → Type} {α : Type} [DecidableEq ι]

/-- The world and the program each slot is running. -/
structure Config (W ι Op : Type) (Reply : Op → Type) (α : Type) where
  world : W
  slot : ι → Option (Program Op Reply α)

/-- Nothing is running. -/
def Config.idle (w : W) : Config W ι Op Reply α := ⟨w, fun _ => none⟩

/-- Replace the program in one slot and move the world. -/
def Config.set (c : Config W ι Op Reply α) (i : ι) (p : Option (Program Op Reply α)) (w : W) :
    Config W ι Op Reply α := ⟨w, Function.update c.slot i p⟩

/-- One step of the runtime. -/
inductive Step (R : Runtime W ι Op Reply α) :
    Config W ι Op Reply α → Config W ι Op Reply α → Prop where
  | start {c i p w} : c.slot i = none → R.start c.world i p w → Step R c (c.set i (some p) w)
  | call {c i op k r w} : c.slot i = some (.call op k) → R.answer i c.world op r w →
      Step R c (c.set i (some (k r)) w)
  | finish {c i a w} : c.slot i = some (.ret a) → R.finish c.world i a w → Step R c (c.set i none w)
  | crash {c i p w} : c.slot i = some p → R.crash c.world i w → Step R c (c.set i none w)
  | env {c w} : R.env c.world w → Step R c ⟨w, c.slot⟩

/-- Reachability between configurations. -/
abbrev Reachable (R : Runtime W ι Op Reply α) := ReflTransGen R.Step

/-- The contract of each slot, its postcondition, and the proof obligations that
make the contracts fit together. -/
structure Obligations (R : Runtime W ι Op Reply α) where
  inv : W → Prop
  rely : ι → W → W → Prop
  guard : ι → W → Op → Prop
  post : ι → α → W → Prop
  rely_refl : ∀ i w, rely i w w
  rely_trans : ∀ i a b c, rely i a b → rely i b c → rely i a c
  post_rely : ∀ i a w w', inv w → rely i w w' → inv w' → post i a w → post i a w'
  start_ok : ∀ i p w w', inv w → R.start w i p w' →
    inv w' ∧ (∀ j, j ≠ i → rely j w w') ∧
      Contract.wp ⟨inv, rely i, guard i, R.answer i⟩ (post i) p w'
  answer_ok : ∀ i op r w w', inv w → guard i w op → R.answer i w op r w' →
    inv w' ∧ ∀ j, j ≠ i → rely j w w'
  finish_ok : ∀ i a w w', inv w → post i a w → R.finish w i a w' →
    inv w' ∧ ∀ j, j ≠ i → rely j w w'
  crash_ok : ∀ i w w', inv w → R.crash w i w' → inv w' ∧ ∀ j, j ≠ i → rely j w w'
  env_ok : ∀ w w', inv w → R.env w w' → inv w' ∧ ∀ j, rely j w w'

namespace Obligations

variable {R : Runtime W ι Op Reply α} (O : Obligations R)

/-- The contract of slot `i`. -/
abbrev contract (i : ι) : Contract W Op Reply := ⟨O.inv, O.rely i, O.guard i, R.answer i⟩

/-- The invariant of the whole runtime: the world is fine, and every running
program meets what is left of its contract. -/
structure Holds (c : Config W ι Op Reply α) : Prop where
  world : O.inv c.world
  slots : ∀ i p, c.slot i = some p → (O.contract i).wp (O.post i) p c.world

omit [DecidableEq ι] in
theorem holds_idle {w : W} (h : O.inv w) : O.Holds (Config.idle w) :=
  ⟨h, fun _ _ hp => absurd hp (by simp [Config.idle])⟩

/-- Replacing one slot keeps the others' contracts, as long as the move is
within what they rely on. -/
theorem Holds.set {c : Config W ι Op Reply α} (h : O.Holds c) {i : ι}
    {p : Option (Program Op Reply α)} {w : W} (hinv : O.inv w)
    (hrely : ∀ j, j ≠ i → O.rely j c.world w)
    (hp : ∀ q, p = some q → (O.contract i).wp (O.post i) q w) : O.Holds (c.set i p w) := by
  refine ⟨hinv, ?_⟩
  intro j q hq
  by_cases hji : j = i
  · subst hji
    exact hp q (by simpa [Config.set] using hq)
  · have hq' : c.slot j = some q := by simpa [Config.set, hji] using hq
    exact Contract.wp_rely (O.rely_trans j) (O.post_rely j) q h.world (hrely j hji) hinv
      (h.slots j q hq')

/-- One step of the runtime keeps `Holds`. -/
theorem Holds.step {c c' : Config W ι Op Reply α} (h : O.Holds c) (hs : R.Step c c') :
    O.Holds c' := by
  cases hs with
  | @start i p w hnone hstart =>
      obtain ⟨hinv, hrely, hwp⟩ := O.start_ok i p _ _ h.world hstart
      exact h.set O hinv hrely fun q hq => by cases hq; exact hwp
  | @call i op k r w hslot hans =>
      -- the slot's own precondition gives the guard, and what is left is the continuation
      obtain ⟨hguard, hk⟩ := h.slots i _ hslot c.world (O.rely_refl i _) h.world
      obtain ⟨hinv, hrely⟩ := O.answer_ok i op r _ _ h.world hguard hans
      exact h.set O hinv hrely fun q hq => by cases hq; exact hk r w hans hinv
  | @finish i a w hslot hfin =>
      obtain ⟨hinv, hrely⟩ := O.finish_ok i a _ _ h.world (h.slots i _ hslot) hfin
      exact h.set O hinv hrely fun q hq => by cases hq
  | @crash i p w hslot hcrash =>
      obtain ⟨hinv, hrely⟩ := O.crash_ok i _ _ h.world hcrash
      exact h.set O hinv hrely fun q hq => by cases hq
  | @env w henv =>
      obtain ⟨hinv, hrely⟩ := O.env_ok _ _ h.world henv
      refine ⟨hinv, fun i p hp => ?_⟩
      exact Contract.wp_rely (O.rely_trans i) (O.post_rely i) p h.world (hrely i) hinv
        (h.slots i p hp)

/-- Every configuration reachable from one that is fine is fine. -/
theorem reachable {c c' : Config W ι Op Reply α} (h : O.Holds c) (hr : R.Reachable c c') :
    O.Holds c' := by
  induction hr with
  | refl => exact h
  | tail _ hs ih => exact ih.step O hs

omit [DecidableEq ι] in
/-- A request about to go out meets its guard. -/
theorem guarded {c : Config W ι Op Reply α} (h : O.Holds c) {i : ι} {op : Op}
    {k : Reply op → Program Op Reply α} (hslot : c.slot i = some (.call op k)) :
    O.guard i c.world op :=
  (h.slots i _ hslot c.world (O.rely_refl i _) h.world).1

end Obligations

/-! ## Concrete runs -/

/-- An execution that nobody interferes with is one of the runtime. -/
theorem reachable_of_executes (R : Runtime W ι Op Reply α) {i : ι} {p : Program Op Reply α}
    {w w' : W} {a : α} (h : p.Executes (R.answer i) w a w')
    (slot : ι → Option (Program Op Reply α)) :
    R.Reachable ⟨w, Function.update slot i (some p)⟩
      ⟨w', Function.update slot i (some (.ret a))⟩ := by
  induction h with
  | ret => exact .refl
  | @call op k r a w w₁ w₂ hans _ ih =>
      have hslot : Function.update slot i (some (.call op k)) i = some (.call op k) := by simp
      have hstep := Step.call (R := R) (c := ⟨w, Function.update slot i (some (.call op k))⟩)
        hslot hans
      refine ReflTransGen.head hstep ?_
      simpa [Config.set] using ih

/-- A program that nobody interferes with, up to its return. -/
theorem reachable_returned (R : Runtime W ι Op Reply α) {i : ι} {p : Program Op Reply α}
    {w w₁ w₂ : W} {a : α} (hstart : R.start w i p w₁) (hex : p.Executes (R.answer i) w₁ a w₂) :
    R.Reachable (.idle w) ((Config.idle w₂).set i (some (.ret a)) w₂) :=
  .head (.start rfl hstart) (R.reachable_of_executes hex fun _ => none)

/-- And once its result has been taken over. -/
theorem reachable_finished (R : Runtime W ι Op Reply α) {i : ι} {p : Program Op Reply α}
    {w w₁ w₂ w₃ : W} {a : α} (hstart : R.start w i p w₁) (hex : p.Executes (R.answer i) w₁ a w₂)
    (hfin : R.finish w₂ i a w₃) : R.Reachable (.idle w) (.idle w₃) := by
  have hslot : ((Config.idle w₂).set i (some (.ret a : Program Op Reply α)) w₂).slot i =
      some (.ret a) := by simp [Config.set]
  have hidle : (((Config.idle w₂).set i (some (.ret a)) w₂).set i none w₃ : Config W ι Op Reply α) =
      .idle w₃ := by
    simp only [Config.set, Config.idle, Function.update_idem]
    exact congrArg (Config.mk w₃) (Function.update_eq_self i fun _ => none)
  rw [← hidle]
  exact (R.reachable_returned hstart hex).tail (.finish hslot hfin)

/-- The first requests of a program, answered by a service the runtime allows. -/
theorem reachable_advance (R : Runtime W ι Op Reply α) {i : ι} {serve : Program.Service W Op Reply}
    (hserve : ∀ w op, R.answer i w op (serve w op).1 (serve w op).2)
    (slot : ι → Option (Program Op Reply α)) (n : Nat) (p : Program Op Reply α) (w : W) :
    R.Reachable ⟨w, Function.update slot i (some p)⟩
      ⟨(p.advance serve n w).2, Function.update slot i (some (p.advance serve n w).1)⟩ := by
  induction n generalizing p w with
  | zero => exact .refl
  | succ n ih =>
      cases p with
      | ret a => exact .refl
      | call op k =>
          have hslot : Function.update slot i (some (.call op k)) i = some (.call op k) := by simp
          have hstep := Step.call (R := R) (c := ⟨w, Function.update slot i (some (.call op k))⟩)
            hslot (hserve w op)
          refine ReflTransGen.head hstep ?_
          simpa [Config.set, Program.advance] using ih (k (serve w op).1) (serve w op).2

end Runtime

end Interaction
