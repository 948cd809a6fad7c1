import Capcs.Interaction.Frame

/-!
# Interaction.Ledger — what a procedure makes and keeps track of

Some requests make something: `made op r` is what the reply `r` to `op` says has been made. A
procedure `Logs` what it makes if, however it ends, its final state refers to all of it. This is
not an invariant of single steps, since a later step may overwrite what an earlier one has
written; so a sequence needs that its second half `Retains` the references of its first
(`Logs.bind`).

`I` is a condition on the history which the replies are known to meet, closed under initial
segments.
-/

namespace Interaction

open Contract

variable {Op : Type} {Reply : Op → Type} {α β γ σ ε X : Type}

/-- What an event has made, if anything, is among `own`. -/
def Noted (made : (op : Op) → Reply op → Option X) (own : X → Prop) (e : Program.Event Op Reply) :
    Prop := ∀ x ∈ made e.op e.reply, own x

theorem Noted.mono {made : (op : Op) → Reply op → Option X} {own own' : X → Prop}
    (hown : ∀ x, own x → own' x) (e : Program.Event Op Reply) (he : Noted made own e) :
    Noted made own' e := fun x hx => hown x (he x hx)

/-- Whatever the replies, all that is made while the procedure runs is referred to at its end. -/
def Logs (made : (op : Op) → Reply op → Option X) (I : History Op Reply → Prop)
    (own : σ → X → Prop) (m : Proc Op Reply σ ε α) : Prop :=
  ∀ s h, (history fun _ _ => True).wpc (fun _ s' h' => I h' → New (Noted made (own s')) h h') m s h

/-- Whatever the replies, no reference is lost. -/
def Retains (own : σ → X → Prop) (m : Proc Op Reply σ ε α) : Prop :=
  ∀ s h, (history fun (_ : Op) (_ : Reply _) => True).wpc
    (fun _ s' _ => ∀ x, own s x → own s' x) m s h

variable {made : (op : Op) → Reply op → Option X} {I : History Op Reply → Prop}
  {own own₁ own₂ : σ → X → Prop} {m : Proc Op Reply σ ε α} {f : α → Proc Op Reply σ ε β}

/-- A request changes nothing by itself. -/
theorem perform_preserves {J : σ → Prop} (op : Op) :
    (history fun (_ : Op) (_ : Reply _) => True).Preserves (fun s _ => J s)
      (Proc.perform op : Proc Op Reply σ ε (Reply op)) :=
  fun _ _ _ hs => history_perform fun _ _ => hs

namespace Retains

theorem of_frame {v : σ → γ} {P : Op → Prop} (hm : Frame v P m)
    (hcongr : ∀ s s', v s' = v s → ∀ x, own s x → own s' x) : Retains own m :=
  fun s h => wpc_imp (hm.wpc s h) fun _ s' _ hsame => hcongr s s' hsame

theorem of_preserves
    (hm : ∀ x, (history fun (_ : Op) (_ : Reply _) => True).Preserves (fun s _ => own s x) m) :
    Retains own m := by
  intro s h
  -- one reference at a time: the postcondition is a statement about all of them
  have hall : ∀ p : Program Op Reply (Except ε α × σ),
      (∀ x, own s x → (history fun _ _ => True).wp (fun out _ => own out.2 x) p h) →
      (history fun _ _ => True).wp (fun out _ => ∀ x, own s x → own out.2 x) p h := by
    intro p
    induction p generalizing h with
    | ret out => exact fun hp x hx => hp x hx
    | call op k ih =>
        intro hp h₁ hrely hinv
        refine ⟨trivial, fun r h₂ hans hinv₂ => ih r h₂ fun x hx => ?_⟩
        exact (hp x hx h₁ hrely hinv).2 r h₂ hans hinv₂
  exact hall _ fun x hx => hm x s h (fun _ _ => trivial) hx

end Retains

namespace Logs

theorem mono (hm : Logs made I own₁ m) (hown : ∀ s x, own₁ s x → own s x) : Logs made I own m :=
  fun s h => wpc_imp (hm s h) fun _ s' _ hlog hI => (hlog hI).mono (Noted.mono (hown s'))

protected theorem pure (a : α) : Logs made I own (pure a : Proc Op Reply σ ε α) :=
  fun _ h _ => .refl _ h

theorem fail (e : ε) : Logs made I own (Proc.fail e : Proc Op Reply σ ε α) :=
  fun _ h _ => .refl _ h

theorem update (g : σ → σ) : Logs made I own (Proc.update g : Proc Op Reply σ ε Unit) :=
  fun _ h _ => .refl _ h

theorem ite {p : Prop} [Decidable p] {m' : Proc Op Reply σ ε α} (hm : p → Logs made I own m)
    (hm' : ¬ p → Logs made I own m') : Logs made I own (if p then m else m') := by
  split
  · exact hm ‹_›
  · exact hm' ‹_›

protected theorem read {k : σ → Proc Op Reply σ ε α} (hk : ∀ s, Logs made I own (k s)) :
    Logs made I own (Proc.read >>= k) := by
  intro s h
  rw [wpc_bind]
  exact hk s s h

theorem wrapErr {g : ε → ε} (hm : Logs made I own m) : Logs made I own (m.wrapErr g) :=
  fun s h => wpc_wrapped (hm s h) fun _ _ _ => id

theorem deferred {g : Except ε α → σ → σ} (hm : Logs made I own m)
    (hg : ∀ out s x, own s x → own (g out s) x) : Logs made I own (m.deferred g) :=
  fun s h => (wpc_deferred m g).mpr
    (wpc_imp (hm s h) fun out s' _ hlog hI => (hlog hI).mono (Noted.mono (hg out s')))

/-- Requests that make nothing. -/
theorem of_frame {v : σ → γ} {P : Op → Prop} (hm : Frame v P m)
    (hP : ∀ op, P op → ∀ r, made op r = none) : Logs made I own m := by
  intro s h
  refine wpc_imp (hm.wpc_new s h) fun _ _ _ hend _ => hend.2.mono fun e he x hx => ?_
  rw [hP e.op he] at hx
  cases hx

/-- A sequence whose second half keeps what the first refers to. -/
protected theorem bind (hI : ∀ h t, I (h ++ t) → I h) (hm : Logs made I own₁ m)
    (hkeep : ∀ a, Retains own₁ (f a)) (hf : ∀ a, Logs made I own₂ (f a))
    (h₁ : ∀ s x, own₁ s x → own s x) (h₂ : ∀ s x, own₂ s x → own s x) :
    Logs made I own (m >>= f) := by
  intro s h
  refine wpc_seq (hm s h) ?_
  rintro (e | a) s₁ h' hlog
  · exact fun hh => (hlog hh).mono (Noted.mono (h₁ s₁))
  rw [after_ok]
  refine wpc_imp (wpc_and (hf a s₁ h') (hkeep a s₁ h')) ?_
  rintro out s₂ h'' ⟨hnew, hret⟩ hh
  obtain ⟨t, rfl, ht⟩ := hnew hh
  have hfirst : New (Noted made (own s₂)) h h' :=
    (hlog (hI h' t hh)).mono (Noted.mono fun x hx => h₁ s₂ x (hret x hx))
  exact hfirst.trans ⟨t, rfl, fun e he => Noted.mono (h₂ s₂) e (ht e he)⟩

/-- A sequence whose first half makes nothing. -/
theorem after (hI : ∀ h t, I (h ++ t) → I h) (hm : Logs made I (fun _ _ => False) m)
    (hf : ∀ a, Logs made I own (f a)) : Logs made I own (m >>= f) := by
  refine .bind hI hm (fun a => ?_) hf (fun _ _ => False.elim) fun _ _ => id
  exact fun s h => wpc_imp (hf a s h) fun _ _ _ _ _ => False.elim

/-- A sequence whose second half makes nothing and keeps the references. -/
theorem before (hI : ∀ h t, I (h ++ t) → I h) (hm : Logs made I own m)
    (hkeep : ∀ a, Retains own (f a)) (hf : ∀ a, Logs made I (fun _ _ => False) (f a)) :
    Logs made I own (m >>= f) :=
  .bind hI hm hkeep hf (fun _ _ => id) fun _ _ => False.elim

/-- A request that may make something. -/
theorem perform {op : Op} {k : Reply op → Proc Op Reply σ ε α}
    (hk : ∀ r s h, (history fun _ _ => True).wpc (fun _ s' h' => I h' →
      (∀ x ∈ made op r, own s' x) ∧ New (Noted made (own s')) h h') (k r) s h) :
    Logs made I own (Proc.perform op >>= k) := by
  intro s h
  rw [wpc_bind]
  refine history_perform fun r _ => ?_
  rw [after_ok]
  refine wpc_imp (hk r s _) fun _ s' h' hend hI => ?_
  obtain ⟨hmade, hnew⟩ := hend hI
  exact New.trans (.snoc hmade h) hnew

end Logs

end Interaction
