import Capcs.Controller.Frames
import Capcs.Readiness.Calls

/-!
# Capcs.Retention.Kept — IDs that are not lost

An ID in status is all that connects the object to what was created for it. A pass may
replace one only if the API has said, in that very pass, that there is nothing of that ID
any more (`Missing`); `Kept` is that rule for one ID. `ensureResource`, which all the
resources go through, keeps to it.
-/

namespace Capcs.Retention

open Cloudscale Controller
open Readiness (CallEvent Trace)
open Interaction (Proc Frame history history_perform)
open Interaction.Contract

/-! ## Replies -/

/-- `Get` returns the resource that was asked for. -/
def echoes : (op : Op) → op.Reply → Prop
  | .get _ id, .ok r => uuidOf r = id
  | _, _ => True

/-- The contract of a pass over the API. -/
abbrev echoCalls : Interaction.Contract Trace Op Op.Reply := history echoes

/-- The API has said that there is no resource of that ID. -/
def Missing (k : Kind) (id : String) (h : Trace) : Prop :=
  ∃ err, isNotFound err = true ∧ (⟨.get k id, .error err⟩ : CallEvent) ∈ h

/-- An ID that was recorded still is, or there is nothing of that ID. -/
def Kept (k : Kind) (old new : String) (h : Trace) : Prop := old = "" ∨ new = old ∨ Missing k old h

variable {k : Kind} {old new id : String} {h h' : Trace}

theorem Missing.later (hm : Missing k id h) (hle : h ⊆ h') : Missing k id h' := by
  obtain ⟨err, herr, hmem⟩ := hm
  exact ⟨err, herr, hle hmem⟩

theorem Kept.refl (k : Kind) (id : String) (h : Trace) : Kept k id id h := .inr (.inl rfl)

theorem Kept.later (hk : Kept k old new h) (hle : h ⊆ h') : Kept k old new h' := by
  rcases hk with hempty | hsame | hmissing
  · exact .inl hempty
  · exact .inr (.inl hsame)
  · exact .inr (.inr (hmissing.later hle))

theorem Kept.trans {mid : String} (h₁ : Kept k old mid h) (h₂ : Kept k mid new h) :
    Kept k old new h := by
  rcases h₁ with hempty | rfl | hmissing
  · exact .inl hempty
  · exact h₂
  · exact .inr (.inr hmissing)

/-- Where nothing was found, anything may be recorded. -/
theorem Kept.fresh (hk : Kept k old "" h) (new : String) : Kept k old new h := by
  rcases hk with hempty | hsame | hmissing
  · exact .inl hempty
  · exact .inl hsame.symm
  · exact .inr (.inr hmissing)

/-! ## Shared call patterns -/

section Patterns

variable {σ : Type} {s : σ} {good : (op : Op) → op.Reply → Prop}

theorem perform_grows (op : Op) : (history good).wpc (fun _ s' h' => s' = s ∧ h ⊆ h')
    (Proc.perform op : Proc Op Op.Reply σ GoError op.Reply) s h :=
  history_perform fun _ _ => ⟨rfl, List.subset_append_left _ _⟩

/-- A procedure that leaves the object in memory as it is. -/
def OnlyReads {α : Type} (m : Recon σ α) : Prop :=
  ∀ (good : (op : Op) → op.Reply → Prop) s h,
    (history good).Preserves (fun s' h' => s' = s ∧ h ⊆ h') m

theorem OnlyReads.wpc {α : Type} {m : Recon σ α} (hm : OnlyReads m) (hinv : (history good).inv h) :
    (history good).wpc (fun _ s' h' => s' = s ∧ h ⊆ h') m s h :=
  hm good s h s h hinv ⟨rfl, List.Subset.refl h⟩

theorem reads_of_frame {α : Type} {P : Op → Prop} {m : Recon σ α}
    (hm : Frame (fun s : σ => s) P m) : OnlyReads m := by
  intro good s h
  refine hm.preserves ?_ ?_ ?_
  · rintro s₁ _ h₁ rfl hs
    exact hs
  · rintro s₁ h₁ _ hs rfl -
    exact hs
  · rintro s₁ h₁ op - ⟨rfl, hle⟩ -
    refine ⟨trivial, ?_⟩
    rintro r _ rfl -
    exact ⟨rfl, List.Subset.trans hle (List.subset_append_left _ _)⟩

/-- What `ensureResource` hands back: what was recorded, or something in place of what is
missing. -/
def Resolves (k : Kind) (current : String) (s : σ) (h : Trace)
    (out : Except GoError (Option k.Resource × String)) (s' : σ) (h' : Trace) : Prop :=
  s' = s ∧ h ⊆ h' ∧ ∀ r id, out = .ok (r, id) →
    Kept k current id h' ∧ r.elim "" uuidOf = id

theorem ensureResource_resolves {current name : String} {tags : TagMap} :
    echoCalls.wpc (Resolves k current s h) (ensureResource k current name tags) s h := by
  refine wpc_imp ensureResource_looksUp ?_
  rintro _ _ _ ⟨rfl, t, rfl, hlooks⟩
  refine ⟨rfl, List.subset_append_left _ _, ?_⟩
  rintro r id rfl
  cases hlooks with
  | found _ hgood => exact ⟨.refl _ _ _, hgood⟩
  | gone hnf hread => exact ⟨.inr (.inr ⟨_, hnf, by simp⟩), by cases hread <;> rfl⟩
  | listed hempty hread => exact ⟨.inl hempty, by cases hread <;> rfl⟩

theorem createResource_grows {req : k.Request} {what : String} {requeueAfter : Nat} :
    (history good).wpc (fun _ s' h' => s' = s ∧ h ⊆ h')
      (createResource k req what requeueAfter) s h := by
  rw [createResource]
  refine wpc_seq (perform_grows (.create k req)) ?_
  rintro out _ h₁ ⟨rfl, hle⟩
  rcases out with err | err | resource
  · exact ⟨rfl, hle⟩
  · simp only [after_ok]
    split
    · exact ⟨rfl, hle⟩
    · exact ⟨rfl, hle⟩
  · exact ⟨rfl, hle⟩

end Patterns

end Capcs.Retention
