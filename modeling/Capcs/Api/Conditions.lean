import Capcs.Keyed.Upsert

/-!
# Capcs.Api.Conditions — status conditions

The condition types and reasons of `api/v1beta2/condition_types.go`, and the
part of `metav1.Condition` the controllers read. Transition times and observed
generations are left out: nothing below reads them.

`set` replaces the entry of the same type or appends one, and `get` returns the
first entry of a type, as the cluster-api helpers do.
-/

namespace Capcs

/-- The condition types of `condition_types.go`. -/
inductive ConditionType where
  | ready
  | networkReady
  | loadBalancerReady
  | serverGroupReady
  | serverReady
  | paused
  | routerReady
  | floatingIPReady
  | deleting
  deriving DecidableEq, Repr

/-- The wire value of a condition type. -/
def ConditionType.text : ConditionType → String
  | .ready => "Ready"
  | .networkReady => "NetworkReady"
  | .loadBalancerReady => "LoadBalancerReady"
  | .serverGroupReady => "ServerGroupReady"
  | .serverReady => "ServerReady"
  | .paused => "Paused"
  | .routerReady => "RouterReady"
  | .floatingIPReady => "FloatingIPReady"
  | .deleting => "Deleting"

/-- The condition reasons of `condition_types.go`. -/
inductive Reason where
  | networkProvisioned | networkError | networkDeleting
  | loadBalancerRunning | loadBalancerNotReady | loadBalancerDisabled | loadBalancerError
  | loadBalancerDeleting
  | routerProvisioned | routerNotReady | routerError | routerDisabled | routerDeleting
  | floatingIPProvisioned | floatingIPDisabled | floatingIPError | floatingIPDeleting
  | serverRunning | serverStarting | serverChanging | serverStopped | serverInRescueMode
  | serverInternalError | serverError | serverDeleting | serverDeletedExternally
  | serverGroupReady | serverGroupError
  | waitingForClusterInfrastructure | waitingForBootstrapData
  | deleting | paused | ready | notReady
  deriving DecidableEq, Repr

/-- `metav1.ConditionStatus`. -/
inductive ConditionStatus where
  | isTrue
  | isFalse
  | unknown
  deriving DecidableEq, Repr

/-- `metav1.Condition`, without its timestamps. -/
structure Condition where
  type : ConditionType
  status : ConditionStatus
  reason : Reason
  message : String := ""
  deriving DecidableEq, Repr

namespace Conditions

/-- `conditions.Set`: upsert by type. -/
def set (new : Condition) : List Condition → List Condition :=
  Keyed.upsertFirst (fun c => c.type = new.type) (fun _ => new) new

/-- `conditions.Get`. -/
def get (cs : List Condition) (t : ConditionType) : Option Condition :=
  cs.find? fun c => c.type = t

/-- `conditions.Delete`. -/
def delete (cs : List Condition) (t : ConditionType) : List Condition :=
  cs.filter fun c => c.type ≠ t

/-- The condition of type `t` is present and `True`. -/
def IsTrue (cs : List Condition) (t : ConditionType) : Prop :=
  ∃ c, get cs t = some c ∧ c.status = .isTrue

instance (cs : List Condition) (t : ConditionType) : Decidable (IsTrue cs t) :=
  match h : get cs t with
  | none => .isFalse fun ⟨_, hc, _⟩ => by simp [h] at hc
  | some c =>
    if hs : c.status = .isTrue then .isTrue ⟨c, h, hs⟩
    else .isFalse fun ⟨_, hc, hc'⟩ => by
      rw [h, Option.some.injEq] at hc
      exact hs (hc ▸ hc')

@[simp] theorem get_set_self (new : Condition) (cs : List Condition) :
    get (set new cs) new.type = some new := by
  rw [get, set, Keyed.find?_upsertFirst_self (by simp) (by simp)]
  cases cs.find? fun c => c.type = new.type <;> rfl

/-- Writing one type leaves the others as they are. -/
theorem get_set_of_ne {new : Condition} {t : ConditionType} (h : t ≠ new.type)
    (cs : List Condition) : get (set new cs) t = get cs t := by
  refine Keyed.find?_upsertFirst_of_disjoint (fun c hc => ?_) (by simpa using h.symm) cs
  have hc : c.type = new.type := by simpa using hc
  simp [hc, h.symm]

/-- Deleting a type leaves the others as they are. -/
theorem get_delete (cs : List Condition) (t t' : ConditionType) :
    get (delete cs t) t' = if t' = t then none else get cs t' := by
  induction cs with
  | nil => simp [get, delete]
  | cons c cs ih =>
      simp only [get, delete] at ih ⊢
      by_cases hc : c.type = t
      · rw [List.filter_cons_of_neg (by simpa using hc), ih]
        split
        · rfl
        · next hne => rw [List.find?_cons_of_neg (by simpa [hc] using Ne.symm hne)]
      · rw [List.filter_cons_of_pos (by simpa using hc), List.find?_cons, List.find?_cons, ih]
        by_cases ht : c.type = t'
        · have hne : t' ≠ t := fun heq => hc (ht.trans heq)
          simp [ht, hne]
        · simp [ht]

end Conditions

end Capcs
