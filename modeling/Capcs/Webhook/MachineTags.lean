import Capcs.Controller.MachineServer
import Capcs.Webhook.Machine

/-!
# Capcs.Webhook.MachineTags — the tag that identifies a machine

A server is found again by the lookup tag of its machine: the key has the name of the cluster in
it, and the value is namespace, cluster and machine, joined by slashes. The user's tags are copied
over it. `lookup_tag_identifies` says that with admitted tags it stands for one machine only:
the key is out of reach for the user, and the value can be taken apart again.
-/

namespace Capcs.Webhook

open Cloudscale Controller

/-! ## Joined names -/

/-- A list is split at the first separator in one way only. -/
theorem append_separator_inj {α : Type} {sep : α} {xs ys xs' ys' : List α} (hxs : sep ∉ xs)
    (hxs' : sep ∉ xs') (h : xs ++ sep :: ys = xs' ++ sep :: ys') : xs = xs' ∧ ys = ys' := by
  induction xs generalizing xs' with
  | nil =>
      cases xs' with
      | nil => exact ⟨rfl, (List.cons.inj h).2⟩
      | cons x xs' => exact absurd ((List.cons.inj h).1 ▸ List.mem_cons_self) hxs'
  | cons x xs ih =>
      cases xs' with
      | nil => exact absurd ((List.cons.inj h).1 ▸ List.mem_cons_self) hxs
      | cons x' xs' =>
          obtain ⟨hhead, htail⟩ := List.cons.inj h
          obtain ⟨heq, hrest⟩ := ih (fun hmem => hxs (List.mem_cons_of_mem _ hmem))
            (fun hmem => hxs' (List.mem_cons_of_mem _ hmem)) htail
          exact ⟨by rw [hhead, heq], hrest⟩

/-- A name without a slash, as Kubernetes names are. -/
def SlashFree (s : String) : Prop := '/' ∉ s.toList

instance (s : String) : Decidable (SlashFree s) := inferInstanceAs (Decidable (¬ _))

theorem slash_inj {a b a' b' : String} (ha : SlashFree a) (ha' : SlashFree a')
    (h : a ++ ("/" ++ b) = a' ++ ("/" ++ b')) : a = a' ∧ b = b' := by
  have hlist := congrArg String.toList h
  simp only [String.toList_append] at hlist
  obtain ⟨hfst, hsnd⟩ := append_separator_inj ha ha' hlist
  exact ⟨String.toList_inj.mp hfst, String.toList_inj.mp hsnd⟩

/-! ## The lookup tag -/

/-- A spec that one of the validators has let through: on create, or as the last of any chain of
updates. -/
def AdmittedSpec (spec : CloudscaleMachineSpec) : Prop :=
  (∃ flavorInfo fldPath, validateMachineSpec spec flavorInfo fldPath = []) ∨
    ∃ oldSpec fldPath, validateMachineSpecUpdate spec oldSpec fldPath = []

theorem AdmittedSpec.freeTags {spec : CloudscaleMachineSpec} (h : AdmittedSpec spec) :
    FreeTags spec.tags := by
  rcases h with ⟨flavorInfo, fldPath, h⟩ | ⟨oldSpec, fldPath, h⟩
  · simp only [validateMachineSpec, List.append_eq_nil_iff] at h
    exact freeTags_of_validateTags h.1.2
  · simp only [validateMachineSpecUpdate, List.append_eq_nil_iff] at h
    exact freeTags_of_validateTags h.2

/-- The names that go into the tag. -/
structure PlainNames (s : MachineScope) (m : CloudscaleMachine) : Prop where
  ns : SlashFree s.cluster.ns
  cluster : SlashFree s.cluster.name
  machine : SlashFree m.metadata.name

/-- The tags of a server match a filter exactly if its machine is the one of the filter. -/
theorem matches_lookupTag_iff {s s' : MachineScope} {m m' : CloudscaleMachine}
    (hfree : FreeTags m.spec.tags) :
    matchesTags (machineLookupTag s' m') (machineCreateTags s m) = true ↔
      machineLookupTag s m = machineLookupTag s' m' := by
  have hlookup : (machineCreateTags s m).lookup (m'.machineTagKey s'.cluster.name) =
      (machineLookupTag s m).lookup (m'.machineTagKey s'.cluster.name) := by
    rw [machineCreateTags, List.lookup_append]
    have hnone := hfree.lookup_owned s'.cluster.name
    rw [CloudscaleMachine.machineTagKey, hnone, Option.none_or]
  simp only [matchesTags, machineLookupTag, List.all_cons, List.all_nil, Bool.and_true,
    decide_eq_true_eq]
  rw [hlookup, machineLookupTag, List.lookup_cons]
  by_cases hkey : m'.machineTagKey s'.cluster.name = m.machineTagKey s.cluster.name
  · simp [hkey]
  · have hne : (m'.machineTagKey s'.cluster.name == m.machineTagKey s.cluster.name) = false := by
      simpa using hkey
    simp [hne, Ne.symm hkey]

theorem lookupTag_inj {s s' : MachineScope} {m m' : CloudscaleMachine} (hn : PlainNames s m)
    (hn' : PlainNames s' m') (h : machineLookupTag s m = machineLookupTag s' m') :
    s.cluster.ns = s'.cluster.ns ∧ s.cluster.name = s'.cluster.name ∧
      m.metadata.name = m'.metadata.name := by
  simp only [machineLookupTag, List.cons.injEq, Prod.mk.injEq, and_true] at h
  obtain ⟨-, hvalue⟩ := h
  -- the first slash ends the namespace and the second one the cluster
  simp only [String.append_assoc] at hvalue
  obtain ⟨hns, hrest⟩ := slash_inj hn.ns hn'.ns hvalue
  obtain ⟨hcluster, hmachine⟩ := slash_inj hn.cluster hn'.cluster hrest
  exact ⟨hns, hcluster, hmachine⟩

/-- The tags with which a server is created match the lookup filter of a machine exactly if it is
the machine of the server. No admitted tag of the user has the key of any cluster. -/
theorem lookup_tag_identifies {s s' : MachineScope} {m m' : CloudscaleMachine}
    (hadmitted : AdmittedSpec m.spec) (hn : PlainNames s m) (hn' : PlainNames s' m') :
    (matchesTags (machineLookupTag s' m') (machineCreateTags s m) = true ↔
      s.cluster.ns = s'.cluster.ns ∧ s.cluster.name = s'.cluster.name ∧
        m.metadata.name = m'.metadata.name) ∧
    ∀ clusterName, m.spec.tags.lookup (m.machineTagKey clusterName) = none := by
  refine ⟨?_, fun clusterName => hadmitted.freeTags.lookup_owned clusterName⟩
  rw [matches_lookupTag_iff hadmitted.freeTags]
  constructor
  · exact lookupTag_inj hn hn'
  · rintro ⟨hns, hcluster, hmachine⟩
    simp only [machineLookupTag, CloudscaleMachine.machineTagKey, hns, hcluster, hmachine]

/-- Two machines of one cluster, one of them with a tag of the user. -/
def taggedMachine : CloudscaleMachine :=
  { metadata := { name := "m0", ns := "default" }, spec := { tags := [("team", "a")] } }

def plainMachine : CloudscaleMachine := { metadata := { name := "m1", ns := "default" } }

def tagScope : MachineScope where
  cluster := { name := "c", ns := "default" }
  machine := { ns := "default" }
  cloudscaleCluster := { metadata := { name := "c", ns := "default" } }

theorem lookup_tag_identifies_tagged :
    matchesTags (machineLookupTag tagScope taggedMachine)
        (machineCreateTags tagScope taggedMachine) = true ∧
      matchesTags (machineLookupTag tagScope plainMachine)
        (machineCreateTags tagScope taggedMachine) ≠
        true := by
  have hadmitted : AdmittedSpec taggedMachine.spec := .inl ⟨none, "spec", by decide⟩
  have hn : PlainNames tagScope taggedMachine := ⟨by decide, by decide, by decide⟩
  have hn' : PlainNames tagScope plainMachine := ⟨by decide, by decide, by decide⟩
  refine ⟨(lookup_tag_identifies hadmitted hn hn).1.mpr ⟨rfl, rfl, rfl⟩, fun hmatch => ?_⟩
  obtain ⟨-, -, hname⟩ := (lookup_tag_identifies hadmitted hn hn').1.mp hmatch
  exact absurd hname (by decide)

end Capcs.Webhook
