import Capcs.Cloudscale.Simulator
import Capcs.Controller.Services
import Mathlib.Logic.Relation

/-!
# Capcs.System.Life — one object, from its first pass to its last

Passes over one object, one after the other, each persisting what it did to the
object; at some point the user asks for its deletion. The object is any of the
custom resources; a `Lifecycle` says how it is worked on.
-/

namespace Capcs.System

open Cloudscale Controller
open Interaction (Program)
open Relation (ReflTransGen)

variable {Obj : Type}

/-- The stored object and the project its resources are in. -/
structure Life (Obj : Type) where
  cloud : World Unit
  obj : Obj

/-- The work on an object, and how it is marked for deletion. -/
structure Lifecycle (Obj : Type) where
  work : Obj → Program Op Op.Reply (Except GoError Result × Obj) → Prop
  markDeleted : Obj → Obj

/-! ## Replies -/

/-- How a cloud answers. -/
abbrev Replies := World Unit → (op : Op) → op.Reply → World Unit → Prop

/-- Every call succeeds, fails, or times out with or without effect; a 404 is
truthful. -/
def anyReplies : Replies := fun w op r w' => Answers () w op r w' ∧ TruthfulReply w op r

/-- And no reply loses a resource. -/
def losslessReplies : Replies := fun w op r w' => anyReplies w op r w' ∧ Lossless w op r w'

/-! ## Runs -/

/-- One pass, and what it persists. -/
def Life.Pass (L : Lifecycle Obj) (answer : Replies) (a b : Life Obj) : Prop :=
  ∃ p out, L.work a.obj p ∧ p.Executes answer a.cloud (out, b.obj) b.cloud

/-- The user asks for the deletion of the object. -/
def Life.requestDeletion (L : Lifecycle Obj) (a : Life Obj) : Life Obj :=
  { a with obj := L.markDeleted a.obj }

/-- What can happen next. -/
inductive Life.Step (L : Lifecycle Obj) (answer : Replies) : Life Obj → Life Obj → Prop where
  | pass {a b : Life Obj} : a.Pass L answer b → Life.Step L answer a b
  | requestDeletion {a : Life Obj} : Life.Step L answer a (a.requestDeletion L)

/-- What passes and the request to delete keep, a run keeps. -/
theorem Life.run_invariant {L : Lifecycle Obj} {answer : Replies} {I : Life Obj → Prop}
    (hpass : ∀ a b, I a → a.Pass L answer b → I b) (hdel : ∀ a, I a → I (a.requestDeletion L))
    {a b : Life Obj} (h : I a) (hrun : ReflTransGen (Life.Step L answer) a b) : I b := by
  induction hrun with
  | refl => exact h
  | tail _ hs ih =>
      cases hs with
      | pass hp => exact hpass _ _ ih hp
      | requestDeletion => exact hdel _ ih

/-! ## Passes that can be run -/

/-- The outcome of a program on a simulated cloud. -/
def Life.simulate (S : Scenario) (p : Program Op Op.Reply (Except GoError Result × Obj))
    (w : World Unit) : Life Obj :=
  ⟨(p.drive (S.simulate ()) w).2, (p.drive (S.simulate ()) w).1.2⟩

theorem Life.pass_simulate {L : Lifecycle Obj} (S : Scenario) {a : Life Obj}
    {p : Program Op Op.Reply (Except GoError Result × Obj)} (hp : L.work a.obj p) :
    a.Pass L anyReplies (Life.simulate S p a.cloud) :=
  ⟨p, _, hp, Program.executes_drive (fun _ _ _ => true)
    (fun w op _ => ⟨S.simulate_answers () w op, S.simulate_truthful () w op⟩) _ _
    (Program.served_of_forall (fun _ _ _ => rfl) _ _)⟩

/-- No create and no look at a resource has failed. -/
def allGood (_ : World Unit) : (op : Op) → op.Reply → Bool
  | .create _ _, .error _ => false
  | .get _ _, .error _ => false
  | .list _ _, .error _ => false
  | _, _ => true

theorem lossless_of_allGood {w w' : World Unit} {op : Op} {r : op.Reply} (h : allGood w op r) :
    Lossless w op r w' := by
  cases op with
  | get k id | list k tags | create k req =>
      cases r with
      | ok r => trivial
      | error e => cases h
  | _ => trivial

theorem Life.pass_simulate_lossless {L : Lifecycle Obj} {S : Scenario} {a : Life Obj}
    {p : Program Op Op.Reply (Except GoError Result × Obj)} (hp : L.work a.obj p)
    (h : p.served (S.simulate ()) allGood a.cloud) :
    a.Pass L losslessReplies (Life.simulate S p a.cloud) :=
  ⟨p, _, hp, Program.executes_drive allGood (fun w op hok =>
    ⟨⟨S.simulate_answers () w op, S.simulate_truthful () w op⟩, lossless_of_allGood hok⟩) _ _ h⟩

end Capcs.System
