import Capcs.Interaction.Contract

/-!
# Interaction.History — what a program has seen

A program that is alone with its requests is described by its history: the requests
it has issued and the replies to them. `history good` is the contract whose world is
that history, with every reply in `good`. What is proved of a procedure under it
holds of each of its `Runs`, and the other way round.

* `history_perform` — the rule for a request.
* `New P h h'` — since `h`, only events in `P` have happened.
-/

namespace Interaction

variable {Op : Type} {Reply : Op → Type} {α σ ε : Type}

/-- The requests issued so far, with their replies. -/
abbrev History (Op : Type) (Reply : Op → Type) := List (Program.Event Op Reply)

/-- The contract of a program whose world is its history. -/
def history (good : (op : Op) → Reply op → Prop) : Contract (History Op Reply) Op Reply where
  inv h := ∀ e ∈ h, good e.op e.reply
  rely h h' := h' = h
  guard _ _ := True
  answer h op r h' := h' = h ++ [⟨op, r⟩]

variable {good : (op : Op) → Reply op → Prop}

theorem history_perform {op : Op} {Q : Except ε (Reply op) → σ → History Op Reply → Prop} {s : σ}
    {h : History Op Reply} (hQ : ∀ r, good op r → Q (.ok r) s (h ++ [⟨op, r⟩])) :
    (history good).wpc Q (Proc.perform op) s h := by
  rw [Contract.wpc_perform]
  rintro h₁ rfl -
  refine ⟨trivial, ?_⟩
  rintro r h₂ rfl hinv
  exact hQ r (hinv ⟨op, r⟩ (by simp))

theorem history_snoc {op : Op} {r : Reply op} {h : History Op Reply} (hinv : (history good).inv h)
    (hr : good op r) : (history good).inv (h ++ [⟨op, r⟩]) := by
  intro e he
  rcases List.mem_append.mp he with he | he
  · exact hinv e he
  · exact List.mem_singleton.mp he ▸ hr

theorem runs_of_wp {Q : α → History Op Reply → Prop} {p : Program Op Reply α}
    {h tr : History Op Reply} {a : α} (hrun : p.Runs tr a)
    (hgood : ∀ e ∈ h ++ tr, good e.op e.reply) (hwp : (history good).wp Q p h) : Q a (h ++ tr) := by
  induction hrun generalizing h with
  | ret a =>
      rw [List.append_nil]
      exact hwp
  | @call op k r tr a _ ih =>
      have hsnoc : h ++ ⟨op, r⟩ :: tr = (h ++ [⟨op, r⟩]) ++ tr := by simp
      rw [hsnoc] at hgood ⊢
      have hinv : (history good).inv (h ++ [⟨op, r⟩]) := fun e he =>
        hgood e (List.mem_append_left _ he)
      obtain ⟨-, hk⟩ := hwp h rfl fun e he => hinv e (List.mem_append_left _ he)
      exact ih hgood (hk r _ rfl hinv)

/-- What is proved of a procedure holds of its runs. -/
theorem runs_of_wpc {Q : Except ε α → σ → History Op Reply → Prop} {m : Proc Op Reply σ ε α}
    {s s' : σ} {h tr : History Op Reply} {out : Except ε α} (hwp : (history good).wpc Q m s h)
    (hrun : (m.exec s).Runs tr (out, s')) (hgood : ∀ e ∈ h ++ tr, good e.op e.reply) :
    Q out s' (h ++ tr) :=
  runs_of_wp (Q := fun (res : Except ε α × σ) h' => Q res.1 res.2 h') hrun hgood hwp

variable {β : Type} {m : Proc Op Reply σ ε α} {s s' : σ} {tr : History Op Reply}

/-- The runs of a sequence: its first half fails, or its second half runs as well. -/
theorem runs_seq {f : α → Proc Op Reply σ ε β} {out : Except ε β} :
    ((m >>= f).exec s).Runs tr (out, s') ↔
      (∃ e, out = .error e ∧ (m.exec s).Runs tr (.error e, s')) ∨
      ∃ a s₁ tr₁ tr₂, tr = tr₁ ++ tr₂ ∧ (m.exec s).Runs tr₁ (.ok a, s₁) ∧
        ((f a).exec s₁).Runs tr₂ (out, s') := by
  rw [Proc.exec_bind, Program.runs_bind]
  constructor
  · rintro ⟨tr₁, ⟨out₁, s₁⟩, tr₂, rfl, hrun₁, hrun₂⟩
    cases out₁ with
    | ok a => exact .inr ⟨a, s₁, tr₁, tr₂, rfl, hrun₁, hrun₂⟩
    | error e =>
        cases hrun₂ with
        | ret => exact .inl ⟨e, rfl, by simpa using hrun₁⟩
  · rintro (⟨e, rfl, hrun⟩ | ⟨a, s₁, tr₁, tr₂, rfl, hrun₁, hrun₂⟩)
    · exact ⟨tr, (.error e, s'), [], by simp, hrun, .ret _⟩
    · exact ⟨tr₁, (.ok a, s₁), tr₂, rfl, hrun₁, hrun₂⟩

theorem runs_deferred {f : Except ε α → σ → σ} {out : Except ε α} :
    ((m.deferred f).exec s).Runs tr (out, s') ↔ ∃ s₁, s' = f out s₁ ∧
      (m.exec s).Runs tr (out, s₁) := by
  constructor
  · intro hrun
    obtain ⟨tr₁, ⟨out₁, s₁⟩, tr₂, rfl, hrun₁, hrun₂⟩ := Program.runs_bind.mp hrun
    cases hrun₂ with
    | ret => exact ⟨s₁, rfl, by simpa using hrun₁⟩
  · rintro ⟨s₁, rfl, hrun⟩
    exact Program.runs_bind.mpr ⟨tr, (out, s₁), [], by simp, hrun, .ret _⟩

theorem runs_wrapErr {f : ε → ε} {out : Except ε α} :
    ((m.wrapErr f).exec s).Runs tr (out, s') ↔
      ∃ out₁, out = out₁.mapError f ∧ (m.exec s).Runs tr (out₁, s') := by
  constructor
  · intro hrun
    obtain ⟨tr₁, ⟨out₁, s₁⟩, tr₂, rfl, hrun₁, hrun₂⟩ := Program.runs_bind.mp hrun
    cases hrun₂ with
    | ret => exact ⟨out₁, rfl, by simpa using hrun₁⟩
  · rintro ⟨out₁, rfl, hrun⟩
    exact Program.runs_bind.mpr ⟨tr, (out₁, s'), [], by simp, hrun, .ret _⟩

theorem runs_attempt {out : Except ε (Except ε α)} :
    (m.attempt.exec s).Runs tr (out, s') ↔ ∃ out₁, out = .ok out₁ ∧
      (m.exec s).Runs tr (out₁, s') := by
  constructor
  · intro hrun
    obtain ⟨tr₁, ⟨out₁, s₁⟩, tr₂, rfl, hrun₁, hrun₂⟩ := Program.runs_bind.mp hrun
    cases hrun₂ with
    | ret => exact ⟨out₁, rfl, by simpa using hrun₁⟩
  · rintro ⟨out₁, rfl, hrun⟩
    exact Program.runs_bind.mpr ⟨tr, (out₁, s'), [], by simp, hrun, .ret _⟩

theorem runs_pure {a : α} {out : Except ε α} :
    ((pure a : Proc Op Reply σ ε α).exec s).Runs tr (out, s') ↔ tr = [] ∧ out = .ok a ∧ s' = s := by
  constructor
  · intro hrun
    cases hrun with
    | ret => exact ⟨rfl, rfl, rfl⟩
  · rintro ⟨rfl, rfl, rfl⟩
    exact .ret _

/-- The calls a procedure makes and how it ends, if each request gets a fixed reply. -/
def Proc.record (reply : (op : Op) → Reply op) (m : Proc Op Reply σ ε α) (s : σ) :
    History Op Reply × (Except ε α × σ) := (m.exec s).record reply

theorem Proc.runs_record (reply : (op : Op) → Reply op) (m : Proc Op Reply σ ε α) (s : σ) :
    (m.exec s).Runs (m.record reply s).1 ((m.record reply s).2.1, (m.record reply s).2.2) :=
  Program.runs_record reply (m.exec s)

/-! ## What has been added to a history -/

/-- The events since `h` are all in `P`. -/
def New (P : Program.Event Op Reply → Prop) (h h' : History Op Reply) : Prop :=
  ∃ t, h' = h ++ t ∧ ∀ e ∈ t, P e

namespace New

variable {P P' : Program.Event Op Reply → Prop} {h h' h'' : History Op Reply}

theorem refl (P : Program.Event Op Reply → Prop) (h : History Op Reply) : New P h h :=
  ⟨[], by simp, by simp⟩

theorem trans (h₁ : New P h h') (h₂ : New P h' h'') : New P h h'' := by
  obtain ⟨t₁, rfl, ht₁⟩ := h₁
  obtain ⟨t₂, rfl, ht₂⟩ := h₂
  refine ⟨t₁ ++ t₂, by simp, ?_⟩
  intro e he
  rcases List.mem_append.mp he with he | he
  · exact ht₁ e he
  · exact ht₂ e he

theorem snoc {e : Program.Event Op Reply} (he : P e) (h : History Op Reply) : New P h (h ++ [e]) :=
  ⟨[e], rfl, by simpa using he⟩

theorem mono (hP : ∀ e, P e → P' e) (hnew : New P h h') : New P' h h' := by
  obtain ⟨t, rfl, ht⟩ := hnew
  exact ⟨t, rfl, fun e he => hP e (ht e he)⟩

end New

end Interaction
