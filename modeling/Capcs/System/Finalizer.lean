import Capcs.System.PassRule
import Capcs.Interaction.Runtime
import Capcs.Cloudscale.Simulator

/-!
# Capcs.System.Finalizer — the finalizer and the calls before it

Whole `Reconcile` passes over one object, call by call, with the stored object beside
them. The user may edit the object and ask for its deletion between any two calls, and
a pass may be cut off anywhere.

A pass adds the finalizer in memory and stores it with its last call, so its creates
go out before. Whether the stored object carries the finalizer at that time is decided
by the version the pass has read: if that carries it, it stays (`finalizer_first`); if
not, creates go out for an object that the next delete request removes
(`finalizer_late`).
-/

namespace Capcs.System

open Cloudscale Controller
open Interaction (Program Runtime Contract)
open Interaction.Contract

variable {Obj : Type}

/-! ## The stored object -/

/-- How the calls of a pass touch the object it is about. -/
structure ObjectCalls (Obj : Type) where
  metadata : Obj → ObjectMeta
  finalizer : String
  /-- The object a reply hands out. -/
  read : (op : KubeOp) → op.Reply → Option Obj
  /-- The object before and after, of a call that patches it. -/
  patch : KubeOp → Option (Obj × Obj)

/-- The calls of `CloudscaleClusterReconciler.Reconcile`. -/
def clusterCalls : ObjectCalls CloudscaleCluster where
  metadata := CloudscaleCluster.metadata
  finalizer := clusterFinalizer
  read
    | .getCluster _ _, .ok c => some c
    | _, _ => none
  patch
    | .patchCluster before after _ => some (before, after)
    | _ => none

/-- The calls of `CloudscaleMachineReconciler.Reconcile`. -/
def machineCalls : ObjectCalls CloudscaleMachine where
  metadata := CloudscaleMachine.metadata
  finalizer := machineFinalizer
  read
    | .getMachine _ _, .ok m => some m
    | _, _ => none
  patch
    | .patchMachine before after _ => some (before, after)
    | _ => none

/-- The object as stored, and whether a create has been issued for it since the
finalizer was last taken off. -/
structure Kube (Obj : Type) where
  obj : Option Obj
  dirty : Bool

/-- The object is stored and carries the finalizer. -/
def Kube.Carries (K : ObjectCalls Obj) (w : Kube Obj) : Prop :=
  ∃ c, w.obj = some c ∧ K.finalizer ∈ (K.metadata c).finalizers

/-- Storing an object: one that is being deleted is gone without finalizers. -/
def ObjectCalls.store (K : ObjectCalls Obj) (c : Obj) : Option Obj :=
  if (K.metadata c).deletionTimestamp ∧ (K.metadata c).finalizers = [] then none else some c

/-- The finalizers after a patch: the patch helper sends them only if they differ. -/
def patchedFinalizers (K : ObjectCalls Obj) (before after stored : Obj) : List String :=
  if (K.metadata after).finalizers = (K.metadata before).finalizers then
    (K.metadata stored).finalizers
  else (K.metadata after).finalizers

/-- A patch takes effect; what it does to the rest of the object is left open. -/
def Patched (K : ObjectCalls Obj) (before after : Obj) (w w' : Kube Obj) : Prop :=
  ∃ stored new, w.obj = some stored ∧
    K.metadata new = { K.metadata stored with
      finalizers := patchedFinalizers K before after stored } ∧
    w' = { obj := K.store new
           dirty := w.dirty && decide (K.finalizer ∈ patchedFinalizers K before after stored) }

/-- A call that brings something into existence in the cloud. -/
def creates : Op → Bool
  | .create _ _ => true
  | .createMember _ _ => true
  | .createInterface _ _ => true
  | _ => false

/-! ## The system -/

/-- What happens on a call. A read returns the stored object, which has to meet
`cond`; a patch takes effect or not; all other replies are arbitrary. -/
def kubeAnswers (K : ObjectCalls Obj) (cond : Obj → Prop) (w : Kube Obj) :
    (op : PassOp) → op.Reply → Kube Obj → Prop
  | .cloud op, _, w' => w' = { w with dirty := w.dirty || creates op }
  | .kube op, r, w' => (∀ c, K.read op r = some c → w.obj = some c ∧ cond c) ∧
      match K.patch op with
      | none => w' = w
      | some (before, after) => w' = w ∨ Patched K before after w w'

/-- What the user does. -/
inductive UserStep (K : ObjectCalls Obj) (w : Kube Obj) : Kube Obj → Prop where
  | create {c : Obj} : w.obj = none → UserStep K w { w with obj := some c }
  | edit {c c' : Obj} : w.obj = some c →
      (K.metadata c').finalizers = (K.metadata c).finalizers →
      (K.metadata c').deletionTimestamp = (K.metadata c).deletionTimestamp →
      UserStep K w { w with obj := some c' }
  | delete {c c' : Obj} : w.obj = some c →
      K.metadata c' = { K.metadata c with deletionTimestamp := true } →
      UserStep K w { w with obj := K.store c' }

/-- Passes over the object, one at a time. -/
def passes (K : ObjectCalls Obj) (cond : Obj → Prop) (pass : Pass (Except GoError Result)) :
    Runtime (Kube Obj) Unit PassOp PassOp.Reply (Except GoError Result) where
  start w _ p w' := w' = w ∧ p = pass
  answer _ := kubeAnswers K cond
  finish w _ _ w' := w' = w
  crash w _ w' := w' = w
  env w w' := UserStep K w w'

/-- The version a pass reads carries the finalizer. -/
def ObjectCalls.Finalized (K : ObjectCalls Obj) (c : Obj) : Prop :=
  K.finalizer ∈ (K.metadata c).finalizers

/-! ## The finalizer stays -/

variable {K : ObjectCalls Obj} {w w' : Kube Obj}

theorem store_of_mem {c : Obj} (h : K.finalizer ∈ (K.metadata c).finalizers) :
    K.store c = some c := by
  have hne : (K.metadata c).finalizers ≠ [] := List.ne_nil_of_mem h
  simp [ObjectCalls.store, hne]

/-- The user cannot get rid of an object that carries the finalizer. -/
theorem UserStep.carries (h : UserStep K w w') (hc : w.Carries K) : w'.Carries K := by
  obtain ⟨c, hobj, hmem⟩ := hc
  cases h with
  | create hnone => simp [hnone] at hobj
  | @edit c₁ c' hobj' hfin _ =>
      obtain rfl : c₁ = c := Option.some.inj (hobj'.symm.trans hobj)
      exact ⟨c', rfl, hfin ▸ hmem⟩
  | @delete c₁ c' hobj' hmeta =>
      obtain rfl : c₁ = c := Option.some.inj (hobj'.symm.trans hobj)
      have hmem' : K.finalizer ∈ (K.metadata c').finalizers := by
        rw [hmeta]
        exact hmem
      exact ⟨c', store_of_mem hmem', hmem'⟩

theorem UserStep.dirty_eq (h : UserStep K w w') : w'.dirty = w.dirty := by
  cases h <;> rfl

/-- The invariant: once a create was issued, the stored object carries the finalizer. -/
def Guarded (K : ObjectCalls Obj) (w : Kube Obj) : Prop := w.dirty = true → w.Carries K

/-- The contract of a pass. -/
def passContract (K : ObjectCalls Obj) : Contract (Kube Obj) PassOp PassOp.Reply where
  inv := Guarded K
  rely w w' := w.Carries K → w'.Carries K
  guard w op := match op with
    | .cloud op => creates op = true → w.Carries K
    | .kube _ => True
  answer := kubeAnswers K K.Finalized

/-- No call but the patch at the end takes the finalizer off. -/
theorem carries_carried (hK : ∀ op, patches op = false → K.patch op = none) :
    Carried (passContract K) (fun _ _ => True) (fun w => w.Carries K) where
  rely _ _ hw hrely _ := hrely hw
  kube w op hop hw _ := by
    refine ⟨trivial, ?_⟩
    rintro r w' ⟨-, hsame⟩
    rw [hK op hop] at hsame
    obtain rfl : w' = w := hsame
    exact hw
  cloud w op hw _ := by
    refine ⟨fun _ => hw, ?_⟩
    rintro r w' hans -
    obtain rfl : w' = { w with dirty := w.dirty || creates op } := hans
    exact ⟨hw, trivial⟩

theorem clusterReconcile_wp (ns name : String) (w : Kube CloudscaleCluster) :
    (passContract clusterCalls).wp (fun _ _ => True) (clusterReconcile ns name) w := by
  have hcalls : ∀ op, patches op = false → clusterCalls.patch op = none := by
    intro op hop
    cases op with
    | patchCluster _ _ _ => cases hop
    | _ => rfl
  refine clusterReconcile_rule (fun _ => carries_carried hcalls) ?_ ?_ w
  · intro w _
    refine ⟨trivial, ?_⟩
    rintro c w' ⟨hread, hsame⟩ -
    obtain rfl : w' = w := hsame
    obtain ⟨hobj, hfin⟩ := hread c rfl
    exact ⟨c, hobj, hfin⟩
  · intro _ _ _ _ _ _ _ _ _ _
    trivial

theorem machineReconcile_wp (ns name : String) (w : Kube CloudscaleMachine) :
    (passContract machineCalls).wp (fun _ _ => True) (machineReconcile ns name) w := by
  have hcalls : ∀ op, patches op = false → machineCalls.patch op = none := by
    intro op hop
    cases op with
    | patchMachine _ _ _ => cases hop
    | _ => rfl
  refine machineReconcile_rule (fun _ => carries_carried hcalls) (fun _ _ => carries_carried hcalls)
    ?_ ?_ ?_ w
  · intro w _
    refine ⟨trivial, ?_⟩
    rintro m w' ⟨hread, hsame⟩ -
    obtain rfl : w' = w := hsame
    obtain ⟨hobj, hfin⟩ := hread m rfl
    exact ⟨m, hobj, hfin⟩
  · rintro m ns' name' c w w' hw - ⟨-, hsame⟩ - -
    obtain rfl : w' = w := hsame
    exact hw
  · intro _ _ _ _ _ _ _ _ _ _ _ _
    trivial

/-! ## Every run -/

/-- A call that is allowed keeps the invariant. -/
theorem Guarded.answer {op : PassOp} {r : op.Reply} (h : Guarded K w)
    (hguard : (passContract K).guard w op) (hans : kubeAnswers K K.Finalized w op r w') :
    Guarded K w' := by
  cases op with
  | cloud op =>
      obtain rfl : w' = { w with dirty := w.dirty || creates op } := hans
      intro hdirty
      rcases Bool.or_eq_true_iff.mp hdirty with hold | hnew
      · exact h hold
      · exact hguard hnew
  | kube op =>
      obtain ⟨-, heffect⟩ := hans
      split at heffect
      · obtain rfl : w' = w := heffect
        exact h
      · next before after hp =>
          rcases heffect with rfl | ⟨stored, new, -, hmeta, rfl⟩
          · exact h
          · -- if the finalizer is still there, the object is stored with it
            intro hdirty
            rw [Bool.and_eq_true, decide_eq_true_iff] at hdirty
            have hmem : K.finalizer ∈ (K.metadata new).finalizers := by
              rw [hmeta]
              exact hdirty.2
            exact ⟨new, store_of_mem hmem, hmem⟩

/-- Passes that keep to the contract, however they are interrupted. -/
def passObligations (K : ObjectCalls Obj) {pass : Pass (Except GoError Result)}
    (hpass : ∀ w, (passContract K).wp (fun _ _ => True) pass w) :
    Runtime.Obligations (passes K K.Finalized pass) where
  inv := Guarded K
  rely _ := (passContract K).rely
  guard _ := (passContract K).guard
  post _ _ _ := True
  rely_refl _ _ := id
  rely_trans _ _ _ _ h h' := fun hc => h' (h hc)
  post_rely _ _ _ _ _ _ _ _ := trivial
  start_ok _ p w w' hinv hstart := by
    obtain ⟨rfl, rfl⟩ := hstart
    exact ⟨hinv, fun _ _ => id, hpass w'⟩
  answer_ok _ op r w w' hinv hguard hans :=
    ⟨hinv.answer hguard hans, fun j hj => absurd rfl hj⟩
  finish_ok _ _ w w' hinv _ hfin := by
    obtain rfl : w' = w := hfin
    exact ⟨hinv, fun _ _ => id⟩
  crash_ok _ w w' hinv hcrash := by
    obtain rfl : w' = w := hcrash
    exact ⟨hinv, fun _ _ => id⟩
  env_ok w w' hinv henv :=
    ⟨fun hdirty => henv.carries (hinv (henv.dirty_eq ▸ hdirty)), fun _ hc => henv.carries hc⟩

/-- What holds of a configuration: a create only goes out for an object that is stored
with the finalizer, and from then on the object stays stored until a patch has taken
the finalizer off. -/
def FinalizerFirst (K : ObjectCalls Obj)
    (c : Runtime.Config (Kube Obj) Unit PassOp PassOp.Reply (Except GoError Result)) : Prop :=
  (∀ op next, c.slot () = some (.call (.cloud op) next) → creates op = true →
    c.world.Carries K) ∧
  (c.world.dirty = true → c.world.Carries K)

theorem finalizerFirst_of_reachable {pass : Pass (Except GoError Result)}
    (hpass : ∀ w, (passContract K).wp (fun _ _ => True) pass w) (hclean : w.dirty = false)
    {c : Runtime.Config (Kube Obj) Unit PassOp PassOp.Reply (Except GoError Result)}
    (hreach : (passes K K.Finalized pass).Reachable (.idle w) c) : FinalizerFirst K c := by
  have hinit : Guarded K w := fun hdirty => by simp [hclean] at hdirty
  have hholds := (passObligations K hpass).reachable
    ((passObligations K hpass).holds_idle hinit) hreach
  refine ⟨?_, hholds.world⟩
  intro op next hslot
  exact (passObligations K hpass).guarded hholds hslot

/-- If every version a pass reads carries the finalizer, creates only go out for
objects stored with the finalizer, for both controllers. -/
theorem finalizer_first (ns name : String) :
    (∀ w c, w.dirty = false → (passes clusterCalls clusterCalls.Finalized
        (clusterReconcile ns name)).Reachable (.idle w) c → FinalizerFirst clusterCalls c) ∧
    (∀ w c, w.dirty = false → (passes machineCalls machineCalls.Finalized
        (machineReconcile ns name)).Reachable (.idle w) c → FinalizerFirst machineCalls c) := by
  constructor
  · intro w c hclean hreach
    exact finalizerFirst_of_reachable (clusterReconcile_wp ns name) hclean hreach
  · intro w c hclean hreach
    exact finalizerFirst_of_reachable (machineReconcile_wp ns name) hclean hreach

/-! ## Runs -/

/-- A service for passes over a cluster; it hands out objects that are `readable`. -/
def kubeServe (readable : CloudscaleCluster → Bool) :
    Program.Service (Kube CloudscaleCluster) PassOp PassOp.Reply := fun w op =>
  match op with
  | .cloud op => (emptyReply op, { w with dirty := w.dirty || creates op })
  | .kube (.getCluster _ _) =>
    (match w.obj with
      | some c => if readable c then .ok c else .error (.other "unavailable")
      | none => .error .notFound, w)
  | .kube (.getMachine _ _) => (.error .notFound, w)
  | .kube (.getOwnerCluster c) => (.ok (some { name := c.metadata.name, ns := c.metadata.ns }), w)
  | .kube (.getOwnerMachine _) => (.ok none, w)
  | .kube (.getClusterFromMetadata _) => (.error .notFound, w)
  | .kube (.getToken _) => (.ok "", w)
  | .kube (.patchCluster _ _ _) => (.error (.other "unavailable"), w)
  | .kube (.patchMachine _ _ _) => (.error (.other "unavailable"), w)

theorem kubeServe_answers {readable : CloudscaleCluster → Bool} {cond : CloudscaleCluster → Prop}
    (h : ∀ c, readable c = true → cond c) (w : Kube CloudscaleCluster) (op : PassOp) :
    kubeAnswers clusterCalls cond w op (kubeServe readable w op).1 (kubeServe readable w op).2 := by
  cases op with
  | cloud op => rfl
  | kube op =>
      cases op with
      | getCluster ns name =>
          refine ⟨?_, rfl⟩
          intro c hread
          simp only [kubeServe] at hread
          cases hobj : w.obj with
          | none => simp [hobj, clusterCalls] at hread
          | some c₁ =>
              by_cases hr : readable c₁ = true
              · have hc : c₁ = c := by simpa [hobj, hr, clusterCalls] using hread
                exact ⟨by rw [hc], hc ▸ h c₁ hr⟩
              · simp [hobj, hr, clusterCalls] at hread
      | patchCluster before after og => exact ⟨fun _ hread => (nomatch hread), .inl rfl⟩
      | getMachine ns name => exact ⟨fun _ hread => (nomatch hread), rfl⟩
      | getOwnerCluster c => exact ⟨fun _ hread => (nomatch hread), rfl⟩
      | getOwnerMachine m => exact ⟨fun _ hread => (nomatch hread), rfl⟩
      | getClusterFromMetadata m => exact ⟨fun _ hread => (nomatch hread), rfl⟩
      | getToken c => exact ⟨fun _ hread => (nomatch hread), rfl⟩
      | patchMachine before after og => exact ⟨fun _ hread => (nomatch hread), rfl⟩

/-- A cluster with one network and the given finalizers, as the user stores it. -/
def storedObject (finalizers : List String) : CloudscaleCluster where
  metadata := { name := "c", ns := "default", finalizers }
  spec := { networks := [{ name := "net", cidr := "10.0.0.0/24" }] }

/-- A pass over it after `n` calls. -/
def passAfter (readable : CloudscaleCluster → Bool) (finalizers : List String) (n : Nat) :
    Pass (Except GoError Result) × Kube CloudscaleCluster :=
  (clusterReconcile "default" "c").advance (kubeServe readable) n
    ⟨some (storedObject finalizers), false⟩

/-- The configuration it is in. -/
def configAfter (readable : CloudscaleCluster → Bool) (finalizers : List String) (n : Nat) :
    Runtime.Config (Kube CloudscaleCluster) Unit PassOp PassOp.Reply (Except GoError Result) :=
  ⟨(passAfter readable finalizers n).2,
    Function.update (fun _ => none) () (some (passAfter readable finalizers n).1)⟩

theorem configAfter_reachable {readable : CloudscaleCluster → Bool}
    {cond : CloudscaleCluster → Prop} (h : ∀ c, readable c = true → cond c)
    (finalizers : List String) (n : Nat) :
    (passes clusterCalls cond (clusterReconcile "default" "c")).Reachable
      (.idle ⟨some (storedObject finalizers), false⟩) (configAfter readable finalizers n) := by
  have hstart : (passes clusterCalls cond (clusterReconcile "default" "c")).Step
      (.idle ⟨some (storedObject finalizers), false⟩)
      ((Runtime.Config.idle ⟨some (storedObject finalizers), false⟩).set ()
        (some (clusterReconcile "default" "c")) ⟨some (storedObject finalizers), false⟩) :=
    .start rfl ⟨rfl, rfl⟩
  have hrest := (passes clusterCalls cond (clusterReconcile "default" "c")).reachable_advance
    (i := ()) (kubeServe_answers h) (fun _ => none) n (clusterReconcile "default" "c")
    ⟨some (storedObject finalizers), false⟩
  exact .head hstart hrest

/-- The next call is a create. -/
def aboutToCreate : Pass (Except GoError Result) → Bool
  | .call (.cloud op) _ => creates op
  | _ => false

theorem call_of_aboutToCreate {p : Pass (Except GoError Result)} (h : aboutToCreate p = true) :
    ∃ op next, p = .call (.cloud op) next ∧ creates op = true := by
  unfold aboutToCreate at h
  split at h
  · next op next => exact ⟨op, next, rfl, h⟩
  · cases h

theorem configAfter_slot (readable : CloudscaleCluster → Bool) (finalizers : List String)
    (n : Nat) :
    (configAfter readable finalizers n).slot () = some (passAfter readable finalizers n).1 := by
  simp [configAfter]

/-- The object carries the finalizer of the cluster controller. -/
def hasFinalizer (c : CloudscaleCluster) : Bool := clusterFinalizer ∈ c.metadata.finalizers

/-- A pass over an object that was stored with the finalizer comes to its first create. -/
theorem finalizer_first_stored :
    ∃ op next, (configAfter hasFinalizer [clusterFinalizer] 4).slot () =
        some (.call (.cloud op) next) ∧ creates op = true ∧
      (configAfter hasFinalizer [clusterFinalizer] 4).world.Carries clusterCalls := by
  have habout : aboutToCreate (passAfter hasFinalizer [clusterFinalizer] 4).1 = true := by
    decide +kernel
  obtain ⟨op, next, hcall, hcreates⟩ := call_of_aboutToCreate habout
  have hslot := configAfter_slot hasFinalizer [clusterFinalizer] 4
  rw [hcall] at hslot
  have hread : ∀ c, hasFinalizer c = true → clusterCalls.Finalized c := fun c hc => by
    simpa [hasFinalizer, ObjectCalls.Finalized, clusterCalls] using hc
  have hfirst := (finalizer_first "default" "c").1 _ _ rfl
    (configAfter_reachable hread [clusterFinalizer] 4)
  exact ⟨op, next, hslot, hcreates, hfirst.1 op next hslot hcreates⟩

/-- A pass over a new object issues a create before the finalizer is stored, and a
delete request then removes the object from the API for good. -/
theorem finalizer_late :
    (∃ c, (passes clusterCalls (fun _ => True) (clusterReconcile "default" "c")).Reachable
        (.idle ⟨some (storedObject []), false⟩) c ∧
      ∃ op next, c.slot () = some (.call (.cloud op) next) ∧ creates op = true ∧
        ¬ c.world.Carries clusterCalls) ∧
    (∃ c, (passes clusterCalls (fun _ => True) (clusterReconcile "default" "c")).Reachable
        (.idle ⟨some (storedObject []), false⟩) c ∧ c.world.dirty = true ∧ c.world.obj = none) := by
  have hread : ∀ c : CloudscaleCluster, (fun _ => true) c = true → (fun _ => True) c :=
    fun _ _ => trivial
  constructor
  · have habout : aboutToCreate (passAfter (fun _ => true) [] 4).1 = true := by decide +kernel
    obtain ⟨op, next, hcall, hcreates⟩ := call_of_aboutToCreate habout
    have hslot := configAfter_slot (fun _ => true) [] 4
    rw [hcall] at hslot
    refine ⟨_, configAfter_reachable hread [] 4, op, next, hslot, hcreates, ?_⟩
    rintro ⟨c, hobj, hmem⟩
    have hstored : (passAfter (fun _ => true) [] 4).2.obj = some (storedObject []) := by
      decide +kernel
    obtain rfl : storedObject [] = c := Option.some.inj (hstored.symm.trans hobj)
    cases hmem
  · -- one call later the create is out, and the user deletes the object
    have hstored : (configAfter (fun _ => true) [] 5).world.obj = some (storedObject []) := by
      decide +kernel
    have hdirty : (configAfter (fun _ => true) [] 5).world.dirty = true := by decide +kernel
    let gone : CloudscaleCluster :=
      { storedObject [] with
        metadata := { (storedObject []).metadata with deletionTimestamp := true } }
    have hdelete : UserStep clusterCalls (configAfter (fun _ => true) [] 5).world
        { (configAfter (fun _ => true) [] 5).world with obj := clusterCalls.store gone } :=
      .delete hstored rfl
    exact ⟨_, (configAfter_reachable hread [] 5).tail (.env hdelete), hdirty, rfl⟩

end Capcs.System
