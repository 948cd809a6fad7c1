import Capcs.Interaction.History

/-!
# Interaction.Frame — what a procedure leaves alone

`Frame f P m`: whatever the replies, `m` does not change `f` of its local state, and makes
no requests outside of `P`. This is proved once for a procedure, with the rules for
preserved assertions, and then used under any contract: an assertion that looks at the local
state through `f` only, and that requests of `P` keep, is kept by `m` (`Frame.preserves`).
-/

namespace Interaction

open Contract

variable {W Op : Type} {Reply : Op → Type} {α β γ σ ε : Type}

/-- The contract that says nothing but which requests are made. -/
def within (P : Op → Prop) : Contract Unit Op Reply where
  inv _ := True
  rely _ _ := True
  guard _ op := P op
  answer _ _ _ _ := True

/-- A procedure that leaves `f` alone and makes requests of `P` only. -/
def Frame (f : σ → β) (P : Op → Prop) (m : Proc Op Reply σ ε α) : Prop :=
  ∀ x, (within P).Preserves (fun s _ => f s = x) m

/-- A fact about the world that requests of `P` keep, together with what a program returns. -/
theorem wp_of_within {C : Contract W Op Reply} {P : Op → Prop} {K : W → Prop} {Q : α → Prop}
    (hrely : ∀ w w', K w → C.rely w w' → C.inv w' → K w')
    (hop : ∀ w op, P op → K w → C.inv w → C.guard w op ∧
      ∀ r w', C.answer w op r w' → C.inv w' → K w')
    {p : Program Op Reply α} (hp : (within P).wp (fun a _ => Q a) p ()) :
    ∀ w, K w → C.wp (fun a w' => Q a ∧ K w') p w := by
  induction p with
  | ret a => exact fun w hw => ⟨hp, hw⟩
  | call op k ih =>
      intro w hw w₁ hmove hinv
      obtain ⟨hP, hk⟩ := hp () trivial trivial
      obtain ⟨hguard, hans⟩ := hop w₁ op hP (hrely w w₁ hw hmove hinv) hinv
      refine ⟨hguard, ?_⟩
      intro r w₂ hanswer hinv₂
      exact ih r (hk r () trivial trivial) w₂ (hans r w₂ hanswer hinv₂)

/-- What a run has done of a procedure that keeps to some requests. -/
theorem runs_of_within {P : Op → Prop} {Q : Except ε α → σ → Prop} {m : Proc Op Reply σ ε α}
    {s s' : σ} {tr : History Op Reply} {out : Except ε α}
    (hm : (within P).wpc (fun out s _ => Q out s) m s ()) (hrun : (m.exec s).Runs tr (out, s')) :
    Q out s' ∧ ∀ e ∈ tr, P e.op := by
  have hend : (history fun _ _ => True).wpc (fun out s h => Q out s ∧ ∀ e ∈ h, P e.op) m s [] := by
    refine wp_of_within (K := fun h : History Op Reply => ∀ e ∈ h, P e.op) ?_ ?_ hm [] (by simp)
    · rintro w _ hK rfl -
      exact hK
    · rintro w op hop hK -
      refine ⟨trivial, ?_⟩
      rintro r _ rfl - e he
      rcases List.mem_append.mp he with he | he
      · exact hK e he
      · exact List.mem_singleton.mp he ▸ hop
  exact runs_of_wpc hend hrun fun _ _ => trivial

namespace Frame

variable {f : σ → β} {P P' : Op → Prop} {m : Proc Op Reply σ ε α}

/-- One request. -/
theorem perform {op : Op} (hop : P op) :
    Frame f P (Proc.perform op : Proc Op Reply σ ε (Reply op)) :=
  fun _ _ _ _ hs => wpc_perform.mpr fun _ _ _ => ⟨hop, fun _ _ _ _ => hs⟩

theorem update {g : σ → σ} (hg : ∀ s, f (g s) = f s) :
    Frame f P (Proc.update g : Proc Op Reply σ ε Unit) :=
  fun _ => .update fun s _ hs => (hg s).trans hs

protected theorem pure (a : α) : Frame f P (pure a : Proc Op Reply σ ε α) := fun _ => .pure a

theorem fail (e : ε) : Frame f P (Proc.fail e : Proc Op Reply σ ε α) := fun _ => .fail e

protected theorem bind {k : α → Proc Op Reply σ ε γ} (hm : Frame f P m)
    (hk : ∀ a, Frame f P (k a)) :
    Frame f P (m >>= k) := fun x => .bind (hm x) fun a => hk a x

theorem ite {p : Prop} [Decidable p] {m' : Proc Op Reply σ ε α} (hm : p → Frame f P m)
    (hm' : ¬ p → Frame f P m') : Frame f P (if p then m else m') :=
  fun x => .ite (fun hp => hm hp x) fun hp => hm' hp x

protected theorem read {k : σ → Proc Op Reply σ ε α} (hk : ∀ s, Frame f P (k s)) :
    Frame f P (Proc.read >>= k) := fun x => .read_any fun s => hk s x

theorem wrapErr {g : ε → ε} (hm : Frame f P m) : Frame f P (m.wrapErr g) := fun x => .wrapErr (hm x)

theorem attempt (hm : Frame f P m) : Frame f P m.attempt := fun x => .attempt (hm x)

theorem deferred {g : Except ε α → σ → σ} (hm : Frame f P m) (hg : ∀ out s, f (g out s) = f s) :
    Frame f P (m.deferred g) := fun x => .deferred (hm x) fun out s _ hs => (hg out s).trans hs

/-- A frame for less, or with more requests. -/
theorem mono {g : σ → γ} (hm : Frame f P m) (hg : ∀ s s', f s' = f s → g s' = g s)
    (hP : ∀ op, P op → P' op) : Frame g P' m := by
  rintro _ s w - rfl
  have hfinal := wp_of_within (C := within P') (K := fun _ => True) (fun _ _ _ _ _ => trivial)
    (fun _ op hop _ _ => ⟨hP op hop, fun _ _ _ _ => trivial⟩) (hm (f s) s () trivial rfl) w trivial
  exact wp_imp (fun _ _ hend => hg s _ hend.1) _ _ hfinal

/-- A frame that forgets which requests are made. -/
theorem anyOp (hm : Frame f P m) : Frame f (fun _ => True) m :=
  hm.mono (fun _ _ hsame => hsame) fun _ _ => trivial

/-- The rule for any contract. -/
theorem preserves {C : Contract W Op Reply} {J : σ → W → Prop} (hm : Frame f P m)
    (hcongr : ∀ s s' w, f s' = f s → J s w → J s' w)
    (hrely : ∀ s w w', J s w → C.rely w w' → C.inv w' → J s w')
    (hop : ∀ s w op, P op → J s w → C.inv w → C.guard w op ∧
      ∀ r w', C.answer w op r w' → C.inv w' → J s w') : C.Preserves J m := by
  intro s w _ hJ
  have hend := wp_of_within (C := C) (K := J s) (hrely s) (hop s) (hm (f s) s () trivial rfl) w hJ
  exact wp_imp (fun out w' hout => hcongr s out.2 w' hout.1 hout.2) _ _ hend

/-- An assertion about the local state alone. -/
theorem carries {good : (op : Op) → Reply op → Prop} {J : σ → Prop} (hm : Frame f P m)
    (hJ : ∀ s s', f s' = f s → J s → J s') : (history good).Preserves (fun s _ => J s) m :=
  hm.preserves (fun s s' _ => hJ s s') (fun _ _ _ hs _ _ => hs)
    fun _ _ _ _ hs _ => ⟨trivial, fun _ _ _ _ => hs⟩

theorem carries_all {good : (op : Op) → Reply op → Prop} {J : σ → Prop} (hm : Frame id P m) :
    (history good).Preserves (fun s _ => J s) m := by
  refine hm.carries ?_
  rintro s _ rfl hs
  exact hs

/-- What a procedure leaves alone is still as it was at the end. -/
theorem wpc {good : (op : Op) → Reply op → Prop} (hm : Frame f P m) (s : σ) (h : History Op Reply) :
    (history good).wpc (fun _ s' _ => f s' = f s) m s h :=
  wp_imp (fun _ _ hend => hend.1) _ _ (wp_of_within (C := history good) (K := fun _ => True)
    (fun _ _ _ _ _ => trivial) (fun _ _ _ _ _ => ⟨trivial, fun _ _ _ _ => trivial⟩)
    (hm (f s) s () trivial rfl) h trivial)

/-- The same, together with the requests made on the way. -/
theorem wpc_new {good : (op : Op) → Reply op → Prop} (hm : Frame f P m) (s : σ)
    (h : History Op Reply) :
    (history good).wpc (fun _ s' h' => f s' = f s ∧ New (fun e => P e.op) h h') m s h := by
  refine wp_of_within (C := history good) (K := New (fun e => P e.op) h) ?_ ?_
    (hm (f s) s () trivial rfl) h (.refl _ h)
  · rintro w _ hnew rfl -
    exact hnew
  · rintro w op hop hnew -
    refine ⟨trivial, ?_⟩
    rintro r _ rfl -
    exact hnew.trans (.snoc hop w)

/-- What a run of the procedure has done. -/
theorem runs (hm : Frame f P m) {s s' : σ} {tr : History Op Reply} {out : Except ε α}
    (hrun : (m.exec s).Runs tr (out, s')) : f s' = f s ∧ ∀ e ∈ tr, P e.op :=
  runs_of_within (hm (f s) s () trivial rfl) hrun

end Frame

end Interaction
