import Capcs.Interaction.Contract

/-!
# Interaction.Returns — what holds when a procedure returns

`C.returns Q m s w`: whenever `m` returns a value, `Q` holds of it, of the local state and of the
world. Nothing is said of runs that end with an error, so in a proof by these rules an error is
never a case of its own.
-/

namespace Interaction.Contract

variable {W Op σ ε α β : Type} {Reply : Op → Type} {C : Contract W Op Reply}
  {Q Q' : α → σ → W → Prop} {s : σ} {w : W}

/-- `Q` holds of whatever is returned. -/
def returns (C : Contract W Op Reply) (Q : α → σ → W → Prop) (m : Proc Op Reply σ ε α) (s : σ)
    (w : W) : Prop :=
  C.wpc (fun out s w => ∀ a, out = .ok a → Q a s w) m s w

theorem returns_pure (a : α) : C.returns Q (pure a : Proc Op Reply σ ε α) s w ↔ Q a s w := by
  rw [returns, wpc_pure]
  exact ⟨fun h => h a rfl, fun h _ ha => Except.ok.inj ha ▸ h⟩

theorem returns_fail (e : ε) : C.returns Q (Proc.fail e : Proc Op Reply σ ε α) s w := by
  rintro _ ⟨⟩

theorem returns_bind {Q : β → σ → W → Prop} {m : Proc Op Reply σ ε α}
    {f : α → Proc Op Reply σ ε β} :
    C.returns Q (m >>= f) s w ↔ C.returns (fun a => C.returns Q (f a)) m s w := by
  rw [returns, wpc_bind, returns]
  have hpost : C.after (fun out s w => ∀ a, out = .ok a → Q a s w) f =
      fun out s w => ∀ a, out = .ok a → C.returns Q (f a) s w := by
    funext out s w
    cases out with
    | ok a => simp [returns]
    | error e => simp
  rw [hpost]

theorem returns_imp {m : Proc Op Reply σ ε α} (h : C.returns Q m s w)
    (hQ : ∀ a s w, Q a s w → Q' a s w) : C.returns Q' m s w :=
  wpc_imp h fun _ s w hout a ha => hQ a s w (hout a ha)

/-- The rule for a sequence whose first half has a specification. -/
theorem returns_seq {Q : β → σ → W → Prop} {A : α → σ → W → Prop} {m : Proc Op Reply σ ε α}
    {f : α → Proc Op Reply σ ε β} (hm : C.returns A m s w)
    (hf : ∀ a s w, A a s w → C.returns Q (f a) s w) : C.returns Q (m >>= f) s w :=
  returns_bind.mpr (returns_imp hm hf)

theorem returns_read {f : σ → Proc Op Reply σ ε α} :
    C.returns Q (Proc.read >>= f) s w ↔ C.returns Q (f s) s w := by
  rw [returns_bind]
  exact returns_pure (Q := fun a s w => C.returns Q (f a) s w) s

theorem returns_update {Q : Unit → σ → W → Prop} {g : σ → σ} :
    C.returns Q (Proc.update g : Proc Op Reply σ ε Unit) s w ↔ Q () (g s) w :=
  returns_pure (s := g s) ()

theorem returns_wrapErr {f : ε → ε} {m : Proc Op Reply σ ε α} :
    C.returns Q (m.wrapErr f) s w ↔ C.returns Q m s w := by
  rw [returns, wpc_wrapErr, returns]
  have hpost : (fun (out : Except ε α) s w => ∀ a, out.mapError f = .ok a → Q a s w) =
      fun out s w => ∀ a, out = .ok a → Q a s w := by
    funext out s w
    cases out <;> simp [Except.mapError]
  rw [hpost]

theorem returns_deferred {g : Except ε α → σ → σ} {m : Proc Op Reply σ ε α}
    (h : C.returns (fun a s w => Q a (g (.ok a) s) w) m s w) : C.returns Q (m.deferred g) s w := by
  rw [returns, wpc_deferred]
  refine wpc_imp h fun out s w hout a ha => ?_
  rw [ha]
  exact hout a ha

theorem returns_ite {p : Prop} [Decidable p] {m m' : Proc Op Reply σ ε α}
    (hm : p → C.returns Q m s w) (hm' : ¬ p → C.returns Q m' s w) :
    C.returns Q (if p then m else m') s w := by
  split
  · exact hm ‹_›
  · exact hm' ‹_›

end Interaction.Contract
