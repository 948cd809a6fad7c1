import Capcs.Interaction.Program

/-!
# Interaction.Contract — rely/guarantee reasoning about programs

A `Contract` says what a program may count on and what it owes: an invariant of
the shared world, the changes others may make between two of its requests
(`rely`), what must hold when a request goes out (`guard`), and how the world
answers (`answer`). `Contract.wp` is the weakest precondition of a program under
a contract, and `Contract.wpc` the same for a `Proc`.

The postcondition speaks about the world right after the last reply, so only
facts that are carried *across* a request have to survive interference; the rule
for a request (`wpc_perform`) is the only place where `rely` shows up.

`Contract.Preserves` is the special case of an assertion that every step keeps,
with one rule for each way of putting steps together.
-/

namespace Interaction

/-- What a program may rely on and what it guarantees, over worlds `W`. -/
structure Contract (W Op : Type) (Reply : Op → Type) where
  /-- Holds of the world whenever a request goes out or a reply comes in. -/
  inv : W → Prop
  /-- What others may do to the world between two requests. -/
  rely : W → W → Prop
  /-- What the program must establish before issuing a request. -/
  guard : W → Op → Prop
  /-- How the world answers a request. -/
  answer : W → (op : Op) → Reply op → W → Prop

namespace Contract

variable {W Op : Type} {Reply : Op → Type} {α β : Type}

/-- Weakest precondition: every request the program issues meets the guard, and
if the program returns, it returns in `Q`. -/
def wp (C : Contract W Op Reply) (Q : α → W → Prop) : Program Op Reply α → W → Prop
  | .ret a, w => Q a w
  | .call op k, w =>
    ∀ w₁, C.rely w w₁ → C.inv w₁ →
      C.guard w₁ op ∧ ∀ r w₂, C.answer w₁ op r w₂ → C.inv w₂ → C.wp Q (k r) w₂

variable {C : Contract W Op Reply}

theorem wp_mono {Q Q' : α → W → Prop} (p : Program Op Reply α) :
    ∀ w, C.inv w → (∀ a w, C.inv w → Q a w → Q' a w) → C.wp Q p w → C.wp Q' p w := by
  induction p with
  | ret a =>
      intro w hinv h hQ
      exact h a w hinv hQ
  | call op k ih =>
      intro w _ h hwp w₁ hrely hinv
      obtain ⟨hguard, hk⟩ := hwp w₁ hrely hinv
      exact ⟨hguard, fun r w₂ hans hinv₂ => ih r w₂ hinv₂ h (hk r w₂ hans hinv₂)⟩

/-- Weakening without a look at the invariant. -/
theorem wp_imp {Q Q' : α → W → Prop} (himp : ∀ a w, Q a w → Q' a w) (p : Program Op Reply α) :
    ∀ w, C.wp Q p w → C.wp Q' p w := by
  induction p with
  | ret a => exact himp a
  | call op k ih =>
      intro w hwp w₁ hrely hinv
      obtain ⟨hguard, hk⟩ := hwp w₁ hrely hinv
      exact ⟨hguard, fun r w₂ hans hinv₂ => ih r w₂ (hk r w₂ hans hinv₂)⟩

/-- Two facts about one program. -/
theorem wp_and {Q Q' : α → W → Prop} (p : Program Op Reply α) :
    ∀ w, C.wp Q p w → C.wp Q' p w → C.wp (fun a w => Q a w ∧ Q' a w) p w := by
  induction p with
  | ret a => exact fun w h h' => ⟨h, h'⟩
  | call op k ih =>
      intro w h h' w₁ hrely hinv
      obtain ⟨hguard, hk⟩ := h w₁ hrely hinv
      obtain ⟨-, hk'⟩ := h' w₁ hrely hinv
      exact ⟨hguard, fun r w₂ hans hinv₂ => ih r w₂ (hk r w₂ hans hinv₂) (hk' r w₂ hans hinv₂)⟩

theorem wp_bind {Q : β → W → Prop} (p : Program Op Reply α) (f : α → Program Op Reply β) :
    ∀ w, C.wp Q (p >>= f) w ↔ C.wp (fun a w => C.wp Q (f a) w) p w := by
  induction p with
  | ret a => intro w; rfl
  | call op k ih =>
      intro w
      simp only [Program.call_bind, wp, ih]

/-- A program that has not started its next request yet can be interrupted: its
precondition survives whatever the others do. -/
theorem wp_rely {Q : α → W → Prop}
    (htrans : ∀ a b c, C.rely a b → C.rely b c → C.rely a c)
    (hQ : ∀ a w w', C.inv w → C.rely w w' → C.inv w' → Q a w → Q a w')
    (p : Program Op Reply α) {w w' : W} (hinv : C.inv w) (hrely : C.rely w w') (hinv' : C.inv w')
    (h : C.wp Q p w) : C.wp Q p w' := by
  cases p with
  | ret a => exact hQ a w w' hinv hrely hinv' h
  | call op k => exact fun w₁ hw₁ hinv₁ => h w₁ (htrans _ _ _ hrely hw₁) hinv₁

/-- A program proved on one world runs in any larger one, together with a fact `K`
about the rest that neither the others nor the answers destroy. -/
theorem wp_lift {W' : Type} {C' : Contract W' Op Reply} (π : W' → W) (K : W' → Prop)
    (hinv : ∀ w, C'.inv w → C.inv (π w))
    (hrely : ∀ w w', C'.rely w w' → K w → C.rely (π w) (π w') ∧ K w')
    (hguard : ∀ w op, C.guard (π w) op → C'.guard w op)
    (hanswer : ∀ w op r w', C'.answer w op r w' → K w → C.answer (π w) op r (π w') ∧ K w')
    {Q : α → W → Prop} (p : Program Op Reply α) :
    ∀ w, K w → C.wp Q p (π w) → C'.wp (fun a w => Q a (π w) ∧ K w) p w := by
  induction p with
  | ret a =>
      intro w hK h
      exact ⟨h, hK⟩
  | call op k ih =>
      intro w hK h w₁ hr hinv₁
      obtain ⟨hr', hK₁⟩ := hrely w w₁ hr hK
      obtain ⟨hg, hk⟩ := h (π w₁) hr' (hinv w₁ hinv₁)
      refine ⟨hguard w₁ op hg, fun r w₂ hans hinv₂ => ?_⟩
      obtain ⟨hans', hK₂⟩ := hanswer w₁ op r w₂ hans hK₁
      exact ih r w₂ hK₂ (hk r (π w₂) hans' (hinv w₂ hinv₂))

/-- An execution that nobody interferes with ends in the postcondition. -/
theorem executes_of_wp {Q : α → W → Prop} (hrefl : ∀ w, C.rely w w)
    (hstep : ∀ w op r w', C.inv w → C.guard w op → C.answer w op r w' → C.inv w')
    {p : Program Op Reply α} {w w' : W} {a : α} (hex : p.Executes C.answer w a w')
    (hinv : C.inv w) (h : C.wp Q p w) : C.inv w' ∧ Q a w' := by
  induction hex with
  | ret => exact ⟨hinv, h⟩
  | @call op k r a w w₁ w₂ hans _ ih =>
      obtain ⟨hguard, hk⟩ := h w (hrefl w) hinv
      have hinv₁ := hstep w op r w₁ hinv hguard hans
      exact ih hinv₁ (hk r w₁ hans hinv₁)

/-! ## Procedures -/

section Procedures

variable {σ ε : Type}

/-- Weakest precondition of a procedure; the postcondition sees the outcome, the
local state and the world. -/
def wpc (C : Contract W Op Reply) (Q : Except ε α → σ → W → Prop)
    (m : Proc Op Reply σ ε α) (s : σ) (w : W) : Prop :=
  C.wp (fun out w => Q out.1 out.2 w) (m.exec s) w

variable {Q Q' : Except ε α → σ → W → Prop} {s : σ} {w : W} {m : Proc Op Reply σ ε α}
  {f : α → Proc Op Reply σ ε β}

theorem wpc_mono (hinv : C.inv w) (h : C.wpc Q m s w)
    (hQ : ∀ out s w, C.inv w → Q out s w → Q' out s w) : C.wpc Q' m s w :=
  wp_mono _ _ hinv (fun out w hinv => hQ out.1 out.2 w hinv) h

@[simp] theorem wpc_pure (a : α) : C.wpc Q (pure a : Proc Op Reply σ ε α) s w ↔ Q (.ok a) s w :=
  Iff.rfl

@[simp] theorem wpc_fail (e : ε) :
    C.wpc Q (Proc.fail e : Proc Op Reply σ ε α) s w ↔ Q (.error e) s w := Iff.rfl

@[simp] theorem wpc_read {Q : Except ε σ → σ → W → Prop} :
    C.wpc Q (Proc.read : Proc Op Reply σ ε σ) s w ↔ Q (.ok s) s w := Iff.rfl

@[simp] theorem wpc_update {Q : Except ε Unit → σ → W → Prop} (f : σ → σ) :
    C.wpc Q (Proc.update f : Proc Op Reply σ ε Unit) s w ↔ Q (.ok ()) (f s) w := Iff.rfl

/-- The rule for one request: interference first, then guard and reply. -/
theorem wpc_perform {op : Op} {Q : Except ε (Reply op) → σ → W → Prop} :
    C.wpc Q (Proc.perform op : Proc Op Reply σ ε (Reply op)) s w ↔
      ∀ w₁, C.rely w w₁ → C.inv w₁ →
        C.guard w₁ op ∧ ∀ r w₂, C.answer w₁ op r w₂ → C.inv w₂ → Q (.ok r) s w₂ := Iff.rfl

/-- What is left to show of a sequence once its first half has returned. -/
def after (C : Contract W Op Reply) (Q : Except ε β → σ → W → Prop)
    (f : α → Proc Op Reply σ ε β) : Except ε α → σ → W → Prop
  | .ok a, s, w => C.wpc Q (f a) s w
  | .error e, s, w => Q (.error e) s w

@[simp] theorem after_ok {Q : Except ε β → σ → W → Prop} {a : α} :
    C.after Q f (.ok a) s w ↔ C.wpc Q (f a) s w := Iff.rfl

@[simp] theorem after_error {Q : Except ε β → σ → W → Prop} {e : ε} :
    C.after Q f (.error e) s w ↔ Q (.error e) s w := Iff.rfl

theorem wpc_bind {Q : Except ε β → σ → W → Prop} :
    C.wpc Q (m >>= f) s w ↔ C.wpc (C.after Q f) m s w := by
  rw [wpc, Proc.exec_bind, wp_bind, wpc]
  have hpost : (fun out w => C.wp (fun out w => Q out.1 out.2 w) (Proc.next f out) w) =
      fun (out : Except ε α × σ) w => C.after Q f out.1 out.2 w := by
    funext ⟨out, s'⟩ w'
    cases out <;> rfl
  rw [hpost]

/-- Reading the object asks nothing of the world. -/
theorem wpc_read_bind {g : σ → Proc Op Reply σ ε β} {Q : Except ε β → σ → W → Prop} :
    C.wpc Q (Proc.read >>= g) s w ↔ C.wpc Q (g s) s w := wpc_bind

theorem wpc_update_bind {g : Unit → Proc Op Reply σ ε β} {Q : Except ε β → σ → W → Prop}
    (h : σ → σ) : C.wpc Q (Proc.update h >>= g) s w ↔ C.wpc Q (g ()) (h s) w := wpc_bind

theorem wpc_imp (h : C.wpc Q m s w) (hQ : ∀ out s w, Q out s w → Q' out s w) : C.wpc Q' m s w :=
  wp_imp (fun (out : Except ε α × σ) w => hQ out.1 out.2 w) _ w h

theorem wpc_and (h : C.wpc Q m s w) (h' : C.wpc Q' m s w) :
    C.wpc (fun out s w => Q out s w ∧ Q' out s w) m s w := wp_and _ w h h'

/-- The rule for a sequence whose first half has a specification. -/
theorem wpc_seq {Q : Except ε β → σ → W → Prop} {P : Except ε α → σ → W → Prop}
    (hm : C.wpc P m s w) (hf : ∀ out s' w', P out s' w' → C.after Q f out s' w') :
    C.wpc Q (m >>= f) s w :=
  wpc_bind.mpr (wpc_imp hm hf)

/-- The same, where the second half needs the invariant. -/
theorem wpc_seq_inv {Q : Except ε β → σ → W → Prop} {P : Except ε α → σ → W → Prop}
    (hinv : C.inv w) (hm : C.wpc P m s w)
    (hf : ∀ out s' w', C.inv w' → P out s' w' → C.after Q f out s' w') : C.wpc Q (m >>= f) s w :=
  wpc_bind.mpr (wpc_mono hinv hm hf)

@[simp] theorem wpc_wrapErr (f : ε → ε) (m : Proc Op Reply σ ε α) :
    C.wpc Q (m.wrapErr f) s w ↔ C.wpc (fun out s w => Q (out.mapError f) s w) m s w :=
  wp_bind (m.exec s) _ w

/-- Wrapping an error keeps a postcondition that does not look into it. -/
theorem wpc_wrapped {f : ε → ε} (h : C.wpc Q m s w)
    (hQ : ∀ e s w, Q (.error e) s w → Q (.error (f e)) s w) : C.wpc Q (m.wrapErr f) s w := by
  refine (wpc_wrapErr f m).mpr (wpc_imp h ?_)
  intro out s w hout
  cases out with
  | ok a => exact hout
  | error e => exact hQ e s w hout

/-- The same for a sequence that starts with what is wrapped. -/
theorem wpc_wrapped_seq {Q : Except ε β → σ → W → Prop} {g : ε → ε} (h : C.wpc Q (m >>= f) s w)
    (hQ : ∀ e s w, Q (.error e) s w → Q (.error (g e)) s w) : C.wpc Q (m.wrapErr g >>= f) s w := by
  rw [wpc_bind] at h ⊢
  refine (wpc_wrapErr g m).mpr (wpc_imp h ?_)
  intro out s w hout
  cases out with
  | ok a => exact hout
  | error e => exact hQ e s w hout

@[simp] theorem wpc_deferred (m : Proc Op Reply σ ε α) (f : Except ε α → σ → σ) :
    C.wpc Q (m.deferred f) s w ↔ C.wpc (fun out s w => Q out (f out s) w) m s w :=
  wp_bind (m.exec s) _ w

@[simp] theorem wpc_attempt {Q : Except ε (Except ε α) → σ → W → Prop}
    (m : Proc Op Reply σ ε α) :
    C.wpc Q m.attempt s w ↔ C.wpc (fun out s w => Q (.ok out) s w) m s w :=
  wp_bind (m.exec s) _ w

@[simp] theorem wpc_ite {c : Prop} [Decidable c] (m m' : Proc Op Reply σ ε α) :
    C.wpc Q (if c then m else m') s w ↔ if c then C.wpc Q m s w else C.wpc Q m' s w := by
  split <;> rfl

/-! ## Preserved assertions -/

/-- Whatever happens, a procedure started in `J` ends in `J`. -/
def Preserves (C : Contract W Op Reply) (J : σ → W → Prop) (m : Proc Op Reply σ ε α) : Prop :=
  ∀ s w, C.inv w → J s w → C.wpc (fun _ => J) m s w

namespace Preserves

variable {J : σ → W → Prop}

protected theorem pure (a : α) : C.Preserves J (pure a : Proc Op Reply σ ε α) := fun _ _ _ h => h

theorem fail (e : ε) : C.Preserves J (Proc.fail e : Proc Op Reply σ ε α) := fun _ _ _ h => h

protected theorem bind (hm : C.Preserves J m) (hf : ∀ a, C.Preserves J (f a)) :
    C.Preserves J (m >>= f) := by
  intro s w hinv h
  rw [wpc_bind]
  refine wpc_mono hinv (hm s w hinv h) ?_
  intro out s' w' hinv' h'
  cases out with
  | ok a => exact hf a s' w' hinv' h'
  | error e => exact h'

theorem wrapErr {f : ε → ε} (hm : C.Preserves J m) :
    C.Preserves J (m.wrapErr f) :=
  fun s w hinv h => (wpc_wrapErr f m).mpr (hm s w hinv h)

theorem wrapErr_bind {g : ε → ε} (h : C.Preserves J (m >>= f)) :
    C.Preserves J (m.wrapErr g >>= f) :=
  fun s w hinv hJ => wpc_wrapped_seq (h s w hinv hJ) fun _ _ _ hout => hout

theorem attempt (hm : C.Preserves J m) : C.Preserves J m.attempt :=
  fun s w hinv h => (wpc_attempt m).mpr (hm s w hinv h)

theorem update {f : σ → σ} (hf : ∀ s w, J s w → J (f s) w) :
    C.Preserves J (Proc.update f : Proc Op Reply σ ε Unit) := fun s w _ h => hf s w h

theorem deferred {f : Except ε α → σ → σ} (hm : C.Preserves J m)
    (hf : ∀ out s w, J s w → J (f out s) w) : C.Preserves J (m.deferred f) := fun s w hinv h =>
  (wpc_deferred m f).mpr (wpc_mono hinv (hm s w hinv h) fun out s' w' _ h' => hf out s' w' h')

theorem ite {p : Prop} [Decidable p] {m' : Proc Op Reply σ ε α} (hm : p → C.Preserves J m)
    (hm' : ¬ p → C.Preserves J m') : C.Preserves J (if p then m else m') := by
  split
  · exact hm ‹_›
  · exact hm' ‹_›

/-- A step that first reads the state may use what holds of it. -/
protected theorem read {f : σ → Proc Op Reply σ ε α}
    (hf : ∀ s w, C.inv w → J s w → C.wpc (fun _ => J) (f s) s w) :
    C.Preserves J (Proc.read >>= f) := fun s w hinv h => by
  rw [wpc_bind]
  exact hf s w hinv h

theorem read_any {f : σ → Proc Op Reply σ ε α} (hf : ∀ s, C.Preserves J (f s)) :
    C.Preserves J (Proc.read >>= f) := .read fun s w hinv h => hf s s w hinv h

end Preserves

end Procedures

end Contract

end Interaction
