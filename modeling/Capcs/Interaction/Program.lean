import Mathlib.Tactic.Common

/-!
# Interaction.Program — code that talks to services

A controller is straight-line code whose only effects are calls to services it
does not control. `Program Op Reply α` is that code as data: either it is done,
or it has issued a request and waits for the reply. Nothing here fixes what the
services do; a reply is whatever the surroundings hand back, which is what lets
one embedding serve every assumption made about them later on.

* `Program` — the free monad over a family of requests, with its monad laws.
* `Proc` — a `Program` with local mutable state and Go-style errors. The state
  survives an error, as the receiver of a Go method does.
* `Proc.deferred` — a deferred closure that reads the outcome and edits the state.
* `Program.drive` — runs a program against an executable service.
* `Program.Executes` — a run against services that are only known by a relation.
* `Program.Runs` — the traces of a program: the requests it issues, the replies
  it got, and what it returned.
-/

namespace Interaction

/-- A program over requests `Op`, where request `op` is answered in `Reply op`. -/
inductive Program (Op : Type) (Reply : Op → Type) (α : Type) : Type where
  | ret (a : α) : Program Op Reply α
  | call (op : Op) (k : Reply op → Program Op Reply α) : Program Op Reply α

namespace Program

variable {Op : Type} {Reply : Op → Type} {α β : Type}

/-- Sequential composition. -/
def bind : Program Op Reply α → (α → Program Op Reply β) → Program Op Reply β
  | .ret a, f => f a
  | .call op k, f => .call op fun r => (k r).bind f

instance : Monad (Program Op Reply) where
  pure := .ret
  bind := .bind

/-- Issue one request and return its reply. -/
def perform (op : Op) : Program Op Reply (Reply op) := .call op .ret

@[simp] theorem pure_eq_ret (a : α) : (pure a : Program Op Reply α) = .ret a := rfl

@[simp] theorem ret_bind (a : α) (f : α → Program Op Reply β) : (.ret a >>= f) = f a := rfl

@[simp] theorem call_bind (op : Op) (k : Reply op → Program Op Reply α)
    (f : α → Program Op Reply β) : (.call op k >>= f) = .call op fun r => k r >>= f := rfl

theorem bind_ret (p : Program Op Reply α) : p >>= (.ret : α → Program Op Reply α) = p := by
  induction p with
  | ret a => rfl
  | call op k ih => simp only [call_bind, ih]

theorem bind_bind {γ : Type} (p : Program Op Reply α) (f : α → Program Op Reply β)
    (g : β → Program Op Reply γ) : p >>= f >>= g = p >>= fun a => f a >>= g := by
  induction p with
  | ret a => rfl
  | call op k ih => simp only [call_bind, ih]

instance : LawfulMonad (Program Op Reply) :=
  .mk' _ bind_ret (fun _ _ => rfl) bind_bind

/-! ## Running a program against an executable service -/

variable {W : Type}

/-- A service that can be run: it answers a request and moves to its next state. -/
abbrev Service (W Op : Type) (Reply : Op → Type) := W → (op : Op) → Reply op × W

/-- Run a program to its end against a service. -/
def drive (serve : Service W Op Reply) : Program Op Reply α → W → α × W
  | .ret a, w => (a, w)
  | .call op k, w => (k (serve w op).1).drive serve (serve w op).2

/-- Run a program for at most `n` requests. -/
def advance (serve : Service W Op Reply) : Nat → Program Op Reply α → W → Program Op Reply α × W
  | 0, p, w => (p, w)
  | _ + 1, .ret a, w => (.ret a, w)
  | n + 1, .call op k, w => (k (serve w op).1).advance serve n (serve w op).2

/-- `Executes answer p w a w'`: with the world answering as `answer` allows and
nobody else moving it, `p` takes the world from `w` to `w'` and returns `a`. -/
inductive Executes (answer : W → (op : Op) → Reply op → W → Prop) :
    Program Op Reply α → W → α → W → Prop where
  | ret {a : α} {w : W} : Executes answer (.ret a) w a w
  | call {op : Op} {k : Reply op → Program Op Reply α} {r : Reply op} {a : α} {w w₁ w₂ : W} :
      answer w op r w₁ → Executes answer (k r) w₁ a w₂ → Executes answer (.call op k) w a w₂

/-- Every reply a service gives while it runs the program is fine. -/
def served (serve : Service W Op Reply) (ok : W → (op : Op) → Reply op → Bool) :
    Program Op Reply α → W → Bool
  | .ret _, _ => true
  | .call op k, w => ok w op (serve w op).1 && (k (serve w op).1).served serve ok (serve w op).2

theorem served_of_forall {serve : Service W Op Reply} {ok : W → (op : Op) → Reply op → Bool}
    (h : ∀ w op r, ok w op r) (p : Program Op Reply α) (w : W) : p.served serve ok w := by
  induction p generalizing w with
  | ret a => rfl
  | call op k ih =>
      rw [served, Bool.and_eq_true]
      exact ⟨h _ _ _, ih _ _⟩

/-- A service whose replies are allowed executes the program. -/
theorem executes_drive {answer : W → (op : Op) → Reply op → W → Prop} {serve : Service W Op Reply}
    (ok : W → (op : Op) → Reply op → Bool)
    (hserve : ∀ w op, ok w op (serve w op).1 → answer w op (serve w op).1 (serve w op).2)
    (p : Program Op Reply α) (w : W) (h : p.served serve ok w) :
    Executes answer p w (p.drive serve w).1 (p.drive serve w).2 := by
  induction p generalizing w with
  | ret a => exact .ret
  | call op k ih =>
      rw [served, Bool.and_eq_true] at h
      exact .call (hserve w op h.1) (ih _ _ h.2)

theorem Executes.mono {answer answer' : W → (op : Op) → Reply op → W → Prop}
    {p : Program Op Reply α} {w w' : W} {a : α}
    (himp : ∀ w op r w', answer w op r w' → answer' w op r w')
    (h : Executes answer p w a w') : Executes answer' p w a w' := by
  induction h with
  | ret => exact .ret
  | call hans _ ih => exact .call (himp _ _ _ _ hans) ih

/-- The executions of a sequence. -/
theorem executes_bind {answer : W → (op : Op) → Reply op → W → Prop} {p : Program Op Reply α}
    {f : α → Program Op Reply β} {w w' : W} {b : β} : Executes answer (p >>= f) w b w' ↔
      ∃ a w₁, Executes answer p w a w₁ ∧ Executes answer (f a) w₁ b w' := by
  constructor
  · intro h
    induction p generalizing w with
    | ret a => exact ⟨a, w, .ret, h⟩
    | call op k ih =>
        cases h with
        | call hans h =>
            obtain ⟨a, w₁, h₁, h₂⟩ := ih _ h
            exact ⟨a, w₁, .call hans h₁, h₂⟩
  · rintro ⟨a, w₁, h₁, h₂⟩
    induction h₁ with
    | ret => exact h₂
    | call hans _ ih => exact .call hans (ih h₂)

theorem Executes.bind_ret {answer : W → (op : Op) → Reply op → W → Prop} {p : Program Op Reply α}
    {w w' : W} {a : α} (h : Executes answer p w a w') (f : α → β) :
    Executes answer (p >>= fun a => .ret (f a)) w (f a) w' := by
  induction h with
  | ret => exact .ret
  | call hans _ ih => exact .call hans ih

/-! ## Traces -/

/-- A request together with the reply it got. -/
structure Event (Op : Type) (Reply : Op → Type) where
  op : Op
  reply : Reply op

/-- `Runs p tr a`: given the replies in `tr`, program `p` issues exactly the
requests in `tr` and returns `a`. -/
inductive Runs : Program Op Reply α → List (Event Op Reply) → α → Prop where
  | ret (a : α) : Runs (.ret a) [] a
  | call {op : Op} {k : Reply op → Program Op Reply α} {r : Reply op}
      {tr : List (Event Op Reply)} {a : α} :
      Runs (k r) tr a → Runs (.call op k) (⟨op, r⟩ :: tr) a

/-- The trace of a sequence is the trace of its first half and then of its second. -/
theorem runs_bind {p : Program Op Reply α} {f : α → Program Op Reply β}
    {tr : List (Event Op Reply)} {b : β} :
    Runs (p >>= f) tr b ↔ ∃ tr₁ a tr₂, tr = tr₁ ++ tr₂ ∧ Runs p tr₁ a ∧ Runs (f a) tr₂ b := by
  constructor
  · intro h
    induction p generalizing tr with
    | ret a => exact ⟨[], a, tr, rfl, .ret a, h⟩
    | call op k ih =>
        cases h with
        | call h =>
            obtain ⟨tr₁, a, tr₂, rfl, h₁, h₂⟩ := ih _ h
            exact ⟨_, a, tr₂, rfl, .call h₁, h₂⟩
  · rintro ⟨tr₁, a, tr₂, rfl, h₁, h₂⟩
    induction h₁ with
    | ret a => exact h₂
    | call _ ih => exact .call (ih h₂)

/-- An execution leaves a trace, with replies the world has allowed. -/
theorem Executes.runs {answer : W → (op : Op) → Reply op → W → Prop} {p : Program Op Reply α}
    {w w' : W} {a : α} (h : Executes answer p w a w') :
    ∃ tr, p.Runs tr a ∧ ∀ e ∈ tr, ∃ w₁ w₂, answer w₁ e.op e.reply w₂ := by
  induction h with
  | ret => exact ⟨[], .ret _, by simp⟩
  | @call op k r a w w₁ w₂ hans _ ih =>
      obtain ⟨tr, hrun, hall⟩ := ih
      refine ⟨⟨op, r⟩ :: tr, .call hrun, fun e he => ?_⟩
      rcases List.mem_cons.mp he with rfl | he
      · exact ⟨w, w₁, hans⟩
      · exact hall e he

/-- The replies decide what a program returns. -/
theorem runs_unique {p : Program Op Reply α} {tr : List (Event Op Reply)} {a b : α}
    (ha : p.Runs tr a) (hb : p.Runs tr b) : a = b := by
  induction ha with
  | ret a =>
      cases hb with
      | ret => rfl
  | call _ ih =>
      cases hb with
      | call hb => exact ih hb

/-- The trace a program leaves, and what it returns, if each request gets a fixed reply. -/
def record (reply : (op : Op) → Reply op) : Program Op Reply α → List (Event Op Reply) × α
  | .ret a => ([], a)
  | .call op k =>
    (⟨op, reply op⟩ :: ((k (reply op)).record reply).1, ((k (reply op)).record reply).2)

theorem runs_record (reply : (op : Op) → Reply op) (p : Program Op Reply α) :
    p.Runs (p.record reply).1 (p.record reply).2 := by
  induction p with
  | ret a => exact .ret a
  | call op k ih => exact .call (ih (reply op))

theorem reply_of_mem_record {reply : (op : Op) → Reply op} {p : Program Op Reply α}
    {e : Event Op Reply} (he : e ∈ (p.record reply).1) : e = ⟨e.op, reply e.op⟩ := by
  induction p with
  | ret a => cases he
  | call op k ih =>
      rcases List.mem_cons.mp he with rfl | he
      · rfl
      · exact ih (reply op) he

end Program

/-! ## Procedures with local state and errors -/

/-- Code with local state `σ` that may fail with `ε`; the state is kept on failure. -/
abbrev Proc (Op : Type) (Reply : Op → Type) (σ ε : Type) := ExceptT ε (StateT σ (Program Op Reply))

namespace Proc

variable {Op : Type} {Reply : Op → Type} {σ ε α : Type}

/-- Run a procedure from a local state, down to a bare program. -/
def exec (m : Proc Op Reply σ ε α) (s : σ) : Program Op Reply (Except ε α × σ) :=
  StateT.run (ExceptT.run m) s

/-- The second half of a sequence, which runs if the first has not failed. -/
def next {β : Type} (f : α → Proc Op Reply σ ε β) :
    Except ε α × σ → Program Op Reply (Except ε β × σ)
  | (.ok a, s) => (f a).exec s
  | (.error e, s) => .ret (.error e, s)

theorem exec_bind {β : Type} (m : Proc Op Reply σ ε α) (f : α → Proc Op Reply σ ε β) (s : σ) :
    (m >>= f).exec s = m.exec s >>= next f := by
  simp only [exec, ExceptT.run_bind, StateT.run_bind]
  congr 1
  funext ⟨out, s'⟩
  cases out <;> rfl

/-- Issue one request. -/
def perform (op : Op) : Proc Op Reply σ ε (Reply op) :=
  ExceptT.mk fun s => .call op fun r => .ret (.ok r, s)

/-- The local state. -/
def read : Proc Op Reply σ ε σ := ExceptT.mk fun s => .ret (.ok s, s)

/-- Update the local state. -/
def update (f : σ → σ) : Proc Op Reply σ ε Unit := ExceptT.mk fun s => .ret (.ok (), f s)

/-- Return with an error. -/
def fail (e : ε) : Proc Op Reply σ ε α := ExceptT.mk fun s => .ret (.error e, s)

/-- Rewrite the error a procedure returns, as `fmt.Errorf("...: %w", err)` does. -/
def wrapErr (f : ε → ε) (m : Proc Op Reply σ ε α) : Proc Op Reply σ ε α :=
  ExceptT.mk fun s => m.exec s >>= fun out => .ret (out.1.mapError f, out.2)

/-- Run `f` on the outcome and the state once `m` has returned, whichever way it
returned: a deferred closure over the named results. -/
def deferred (m : Proc Op Reply σ ε α) (f : Except ε α → σ → σ) : Proc Op Reply σ ε α :=
  ExceptT.mk fun s => m.exec s >>= fun out => .ret (out.1, f out.1 out.2)

theorem exec_deferred (m : Proc Op Reply σ ε α) (f : Except ε α → σ → σ) (s : σ) :
    (m.deferred f).exec s = m.exec s >>= fun out => .ret (out.1, f out.1 out.2) := rfl

/-- Hand the outcome of `m` to the caller as a value, for code that looks at an
error before deciding what to do with it. -/
def attempt (m : Proc Op Reply σ ε α) : Proc Op Reply σ ε (Except ε α) :=
  ExceptT.mk fun s => m.exec s >>= fun out => .ret (.ok out.1, out.2)

/-! ### Sequences that start without a request -/

section Sequences

variable {β : Type} (s : σ)

theorem exec_read_bind (f : σ → Proc Op Reply σ ε β) : (read >>= f).exec s = (f s).exec s := rfl

theorem exec_update_bind (g : σ → σ) (f : Unit → Proc Op Reply σ ε β) :
    (update g >>= f).exec s = (f ()).exec (g s) := rfl

theorem exec_fail_bind (e : ε) (f : α → Proc Op Reply σ ε β) :
    (fail e >>= f).exec s = .ret (.error e, s) := rfl

end Sequences

end Proc

end Interaction
