import Capcs.Interaction.Frame

/-!
# Interaction.Same — procedures that do the same from some states

`SameFrom J m m'`: started in a state of `J`, the two procedures make the same requests, go on in
the same way after every reply, and return the same. Two procedures that differ in a branch are
the same from the states from which that branch is not reached.
-/

namespace Interaction

open Contract

variable {Op : Type} {Reply : Op → Type} {α β σ ε : Type}

/-- Continuations that agree on all that a program can return. -/
theorem Program.bind_congr_of_wp {p : Program Op Reply α} {f g : α → Program Op Reply β} :
    ∀ {h : History Op Reply}, (history fun _ _ => True).wp (fun a _ => f a = g a) p h →
      p >>= f = p >>= g := by
  induction p with
  | ret a => exact fun hp => hp
  | call op k ih =>
      intro h hp
      obtain ⟨-, hk⟩ := hp h rfl fun _ _ => trivial
      rw [Program.call_bind, Program.call_bind]
      congr 1
      funext r
      exact ih r (hk r _ rfl fun _ _ => trivial)

/-- The two procedures do the same from the states of `J`. -/
def SameFrom (J : σ → Prop) (m m' : Proc Op Reply σ ε α) : Prop :=
  ∀ s, J s → m.exec s = m'.exec s

/-- A procedure ends in `J` if it is started there, whatever the replies. -/
def Keeps (J : σ → Prop) (m : Proc Op Reply σ ε α) : Prop :=
  ∀ s, J s → (history fun _ _ => True).wpc (fun _ s' _ => J s') m s []

variable {J : σ → Prop} {m m' : Proc Op Reply σ ε α} {f f' : α → Proc Op Reply σ ε β}

theorem Keeps.of_preserves (hm : (history fun _ _ => True).Preserves (fun s _ => J s) m) :
    Keeps J m :=
  fun s hs => hm s [] (fun _ he => absurd he (by simp)) hs

theorem Keeps.of_frame {γ : Type} {view : σ → γ} {P : Op → Prop} (hm : Frame view P m)
    (hJ : ∀ s s', view s' = view s → J s → J s') : Keeps J m := by
  refine .of_preserves (hm.preserves (fun s s' _ => hJ s s') ?_ ?_)
  · exact fun _ _ _ hs _ _ => hs
  · exact fun _ _ _ _ hs _ => ⟨trivial, fun _ _ _ _ => hs⟩

theorem Keeps.wrapErr {g : ε → ε} (hm : Keeps J m) : Keeps J (m.wrapErr g) :=
  fun s hs => wpc_wrapped (hm s hs) fun _ _ _ => id

namespace SameFrom

protected theorem refl (J : σ → Prop) (m : Proc Op Reply σ ε α) : SameFrom J m m := fun _ _ => rfl

protected theorem bind (hm : SameFrom J m m') (hk : Keeps J m) (hf : ∀ a, SameFrom J (f a) (f' a)) :
    SameFrom J (m >>= f) (m' >>= f') := by
  intro s hs
  rw [Proc.exec_bind, Proc.exec_bind, ← hm s hs]
  refine Program.bind_congr_of_wp (wp_imp ?_ _ _ (hk s hs))
  rintro ⟨out, s'⟩ _ hs'
  cases out with
  | error e => rfl
  | ok a => exact hf a s' hs'

/-- The first half is the same procedure. -/
theorem bind_left (hk : Keeps J m) (hf : ∀ a, SameFrom J (f a) (f' a)) :
    SameFrom J (m >>= f) (m >>= f') := .bind (.refl J m) hk hf

protected theorem read {g g' : σ → Proc Op Reply σ ε α}
    (hg : ∀ s, J s → (g s).exec s = (g' s).exec s) :
    SameFrom J (Proc.read >>= g) (Proc.read >>= g') := fun s hs => hg s hs

protected theorem wrapErr (hm : SameFrom J m m') (g : ε → ε) :
    SameFrom J (m.wrapErr g) (m'.wrapErr g) := by
  intro s hs
  show m.exec s >>= _ = m'.exec s >>= _
  rw [hm s hs]

protected theorem deferred (hm : SameFrom J m m') (g : Except ε α → σ → σ) :
    SameFrom J (m.deferred g) (m'.deferred g) := by
  intro s hs
  rw [Proc.exec_deferred, Proc.exec_deferred, hm s hs]

protected theorem ite {p : Prop} [Decidable p] {n n' : Proc Op Reply σ ε α}
    (hm : p → SameFrom J m m') (hn : ¬ p → SameFrom J n n') :
    SameFrom J (if p then m else n) (if p then m' else n') := by
  split
  · exact hm ‹_›
  · exact hn ‹_›

end SameFrom

end Interaction
