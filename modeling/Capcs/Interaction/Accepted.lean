import Capcs.Interaction.Contract

/-!
# Interaction.Accepted — worlds along a trace

`Accepted answer w tr w'`: the world goes along with the trace `tr`, reply by reply, from `w` to
`w'`. A program that is executed leaves a trace that the world accepts (`executes_iff`), so what
is known of the traces of a program can be combined with what the world does on each of them.
-/

namespace Interaction.Program

variable {W Op : Type} {Reply : Op → Type} {α : Type}
  {answer answer' : W → (op : Op) → Reply op → W → Prop} {w w₁ w₂ : W}
  {tr tr' : List (Event Op Reply)}

/-- The world answers as in the trace, one request after the other. -/
inductive Accepted (answer : W → (op : Op) → Reply op → W → Prop) :
    W → List (Event Op Reply) → W → Prop where
  | nil {w : W} : Accepted answer w [] w
  | cons {op : Op} {r : Reply op} {tr : List (Event Op Reply)} {w w₁ w₂ : W} :
      answer w op r w₁ → Accepted answer w₁ tr w₂ → Accepted answer w (⟨op, r⟩ :: tr) w₂

@[simp] theorem accepted_nil : Accepted answer w [] w₂ ↔ w₂ = w := by
  constructor
  · rintro ⟨⟩
    rfl
  · rintro rfl
    exact .nil

theorem accepted_cons {op : Op} {r : Reply op} :
    Accepted answer w (⟨op, r⟩ :: tr) w₂ ↔ ∃ w₁, answer w op r w₁ ∧ Accepted answer w₁ tr w₂ := by
  constructor
  · rintro ⟨⟩
    exact ⟨_, ‹_›, ‹_›⟩
  · rintro ⟨w₁, hans, h⟩
    exact .cons hans h

@[simp] theorem accepted_singleton {op : Op} {r : Reply op} :
    Accepted answer w [⟨op, r⟩] w₂ ↔ answer w op r w₂ := by
  simp [accepted_cons]

theorem accepted_append :
    Accepted answer w (tr ++ tr') w₂ ↔ ∃ w₁, Accepted answer w tr w₁ ∧
      Accepted answer w₁ tr' w₂ := by
  induction tr generalizing w with
  | nil => simp
  | cons e tr ih =>
      obtain ⟨op, r⟩ := e
      simp only [List.cons_append, accepted_cons, ih]
      constructor
      · rintro ⟨w₁, hans, w₂, h, h'⟩
        exact ⟨w₂, ⟨w₁, hans, h⟩, h'⟩
      · rintro ⟨w₂, ⟨w₁, hans, h⟩, h'⟩
        exact ⟨w₁, hans, w₂, h, h'⟩

theorem Accepted.mono (himp : ∀ w op r w', answer w op r w' → answer' w op r w')
    (h : Accepted answer w tr w₂) : Accepted answer' w tr w₂ := by
  induction h with
  | nil => exact .nil
  | cons hans _ ih => exact .cons (himp _ _ _ _ hans) ih

/-- What is known of the replies of a trace is known to the world that accepts it. -/
theorem accepted_and {good : (op : Op) → Reply op → Prop} :
    Accepted (fun w op r w' => answer w op r w' ∧ good op r) w tr w₂ ↔
      Accepted answer w tr w₂ ∧ ∀ e ∈ tr, good e.op e.reply := by
  induction tr generalizing w with
  | nil => simp
  | cons e tr ih =>
      obtain ⟨op, r⟩ := e
      simp only [accepted_cons, ih, List.forall_mem_cons]
      constructor
      · rintro ⟨w₁, ⟨hans, hgood⟩, hacc, hrest⟩
        exact ⟨⟨w₁, hans, hacc⟩, hgood, hrest⟩
      · rintro ⟨⟨w₁, hans, hacc⟩, hgood, hrest⟩
        exact ⟨w₁, ⟨hans, hgood⟩, hacc, hrest⟩

/-- What requests of a kind keep is kept along a trace of them. -/
theorem Accepted.keeps {K : W → Prop} {S : Op → Prop} (h : Accepted answer w tr w₂)
    (hstep : ∀ w op r w₁, S op → K w → answer w op r w₁ → K w₁) (hS : ∀ e ∈ tr, S e.op) (hK : K w) :
    K w₂ := by
  induction h with
  | nil => exact hK
  | cons hans _ ih =>
      obtain ⟨hop, hrest⟩ := List.forall_mem_cons.mp hS
      exact ih hrest (hstep _ _ _ _ hop hK hans)

/-- The world at one event of a trace. -/
theorem Accepted.split (h : Accepted answer w tr w₂) {e : Event Op Reply} (he : e ∈ tr) :
    ∃ pre post w₁ w₁', tr = pre ++ e :: post ∧ Accepted answer w pre w₁ ∧
      answer w₁ e.op e.reply w₁' := by
  obtain ⟨pre, post, rfl⟩ := List.append_of_mem he
  obtain ⟨w₁, hacc, hrest⟩ := accepted_append.mp h
  obtain ⟨w₁', hans, -⟩ := accepted_cons.mp hrest
  exact ⟨pre, post, w₁, w₁', rfl, hacc, hans⟩

/-- The executions of a program are its runs on the traces the world accepts. -/
theorem executes_iff {p : Program Op Reply α} {a : α} :
    Executes answer p w a w₂ ↔ ∃ tr, p.Runs tr a ∧ Accepted answer w tr w₂ := by
  constructor
  · intro h
    induction h with
    | ret => exact ⟨[], .ret _, .nil⟩
    | call hans _ ih =>
        obtain ⟨tr, hrun, hacc⟩ := ih
        exact ⟨_, .call hrun, .cons hans hacc⟩
  · rintro ⟨tr, hrun, hacc⟩
    induction hrun generalizing w with
    | ret =>
        cases hacc
        exact .ret
    | call _ ih =>
        obtain ⟨w₁, hans, hacc⟩ := accepted_cons.mp hacc
        exact .call hans (ih hacc)

/-- A world that always has an answer runs every program to its end. -/
theorem exists_accepted (htotal : ∀ w op, ∃ r w', answer w op r w') (p : Program Op Reply α)
    (w : W) :
    ∃ tr a w', p.Runs tr a ∧ Accepted answer w tr w' := by
  induction p generalizing w with
  | ret a => exact ⟨[], a, w, .ret a, .nil⟩
  | call op k ih =>
      obtain ⟨r, w₁, hans⟩ := htotal w op
      obtain ⟨tr, a, w₂, hrun, hacc⟩ := ih r w₁
      exact ⟨⟨op, r⟩ :: tr, a, w₂, .call hrun, .cons hans hacc⟩

/-- Of two runs that agree as far as both go, neither goes further than the other. -/
theorem runs_prefix_unique {p : Program Op Reply α} {rest rest' : List (Event Op Reply)} {a b : α}
    (ha : p.Runs tr a) (hb : p.Runs tr' b) (heq : tr ++ rest = tr' ++ rest') :
    tr = tr' ∧ rest = rest' ∧ a = b := by
  induction ha generalizing tr' with
  | ret a =>
      cases hb
      exact ⟨rfl, heq, rfl⟩
  | call _ ih =>
      cases hb with
      | call hb =>
          simp only [List.cons_append, List.cons.injEq, Event.mk.injEq, true_and] at heq
          obtain ⟨hr, heq⟩ := heq
          cases hr
          obtain ⟨rfl, hrest, hab⟩ := ih hb heq
          exact ⟨rfl, hrest, hab⟩

/-- A world that can follow another one accepts what that one accepts. -/
theorem Accepted.simulate {W' : Type} {answer' : W' → (op : Op) → Reply op → W' → Prop}
    {R : W → W' → Prop} {S : Op → Prop}
    (hstep : ∀ w w' op r w₁, S op → R w w' → answer w op r w₁ → ∃ w₁',
      answer' w' op r w₁' ∧ R w₁ w₁')
    (h : Accepted answer w tr w₂) (hS : ∀ e ∈ tr, S e.op) {w' : W'} (hR : R w w') :
    ∃ w₂', Accepted answer' w' tr w₂' ∧ R w₂ w₂' := by
  induction h generalizing w' with
  | nil => exact ⟨w', .nil, hR⟩
  | cons hans _ ih =>
      obtain ⟨w₁', hans', hR₁⟩ := hstep _ w' _ _ _ (hS _ List.mem_cons_self) hR hans
      obtain ⟨w₂', hacc, hR₂⟩ := ih (fun e he => hS e (List.mem_cons_of_mem _ he)) hR₁
      exact ⟨w₂', .cons hans' hacc, hR₂⟩

/-- Under a contract without interference and guards, what holds of every run is proved. -/
theorem wp_of_accepted {C : Contract W Op Reply} {Q : α → W → Prop}
    (hrely : ∀ w w', C.rely w w' → w' = w) (hguard : ∀ w op, C.guard w op)
    {p : Program Op Reply α} (h : ∀ tr a w', p.Runs tr a → Accepted C.answer w tr w' → Q a w') :
    C.wp Q p w := by
  induction p generalizing w with
  | ret a => exact h [] a w (.ret a) .nil
  | call op k ih =>
      intro w₁ hmove _
      obtain rfl := hrely w w₁ hmove
      refine ⟨hguard w₁ op, fun r w₂ hans _ => ih r fun tr a w' hrun hacc => ?_⟩
      exact h _ a w' (.call hrun) (.cons hans hacc)

/-- What is proved of a program under a contract holds of its runs on the traces the world accepts:
the postcondition in the end, and the guard of each request on the way. -/
theorem accepted_of_wp {C : Contract W Op Reply} {Q : α → W → Prop} {G : Op → Prop}
    (hrefl : ∀ w, C.rely w w)
    (hstep : ∀ w op r w', C.inv w → C.guard w op → C.answer w op r w' → C.inv w')
    (hG : ∀ w op, C.guard w op → G op) {p : Program Op Reply α} {a : α} (hrun : p.Runs tr a)
    (hacc : Accepted C.answer w tr w₂) (hinv : C.inv w) (h : C.wp Q p w) :
    Q a w₂ ∧ ∀ e ∈ tr, G e.op := by
  induction hrun generalizing w with
  | ret a =>
      rw [accepted_nil] at hacc
      exact ⟨hacc ▸ h, by simp⟩
  | call _ ih =>
      obtain ⟨w₁, hans, hacc⟩ := accepted_cons.mp hacc
      obtain ⟨hguard, hk⟩ := h w (hrefl w) hinv
      have hinv₁ := hstep w _ _ w₁ hinv hguard hans
      obtain ⟨hend, hrest⟩ := ih hacc hinv₁ (hk _ w₁ hans hinv₁)
      exact ⟨hend, List.forall_mem_cons.mpr ⟨hG w _ hguard, hrest⟩⟩

end Interaction.Program
