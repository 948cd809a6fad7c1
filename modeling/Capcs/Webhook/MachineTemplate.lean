import Capcs.Webhook.OwnPatches

/-!
# Capcs.Webhook.MachineTemplate — CloudscaleMachineTemplates

`cloudscalemachinetemplate_webhook.go`, the controller that reports the capacity of a template
(`cloudscalemachinetemplate_controller.go`), and the flavors both look at (`flavors.go`).

The spec of a template is checked when it is created and never changes. From this follows what the
others count on (`template_serves`): the machines made from it are accepted as they are, and the
two checks that the controller makes "for defensive coding reasons" never stop it.
-/

namespace Capcs.Webhook

open Cloudscale

/-! ## Flavors -/

/-- `cloudscalesdk.Flavor`. -/
structure Flavor where
  slug : String
  vcpuCount : Int
  memoryGB : Int
  gpuCount : Option Int := none
  deriving DecidableEq, Repr

/-- `corev1.ResourceList`, with quantities as they are written. -/
abbrev ResourceList := List (String × String)

/-- `GetFlavor`, from the map that `NewFlavorInfo` makes. -/
def getFlavor (flavors : List Flavor) (slug : String) : Option Flavor :=
  (lastByKey (·.slug) flavors slug).map (·.1)

/-- `NewFlavorInfo`, as far as the webhooks look at it. -/
def newFlavorInfo (flavors : List Flavor) : FlavorInfo := { flavors := flavors.map (·.slug) }

/-- `GetCapacity`. Quantities stay as they are written; `resource.MustParse` brings them into a
canonical form. -/
def getCapacity (flavors : List Flavor) (slug : String) : Except String ResourceList :=
  match getFlavor flavors slug with
  | none => .error ("unknown flavor: " ++ slug)
  | some flavor =>
    .ok ([("cpu", toString flavor.vcpuCount), ("memory", toString flavor.memoryGB ++ "Gi")] ++
      flavor.gpuCount.elim [] fun count =>
        if count > 0 then [("nvidia.com/gpu", toString count)] else [])

/-- No flavor has been withdrawn. -/
def KeepsFlavors (flavors later : List Flavor) : Prop :=
  flavors.map (·.slug) ⊆ later.map (·.slug)

theorem getCapacity_of_mem {flavors : List Flavor} {slug : String}
    (h : slug ∈ flavors.map (·.slug)) : ∃ capacity, getCapacity flavors slug = .ok capacity := by
  obtain ⟨flavor, hmem, rfl⟩ := List.mem_map.mp h
  obtain ⟨found, hfound⟩ : ∃ p, lastByKey (·.slug) flavors flavor.slug = some p :=
    exists_lastByKey hmem
  rw [getCapacity, getFlavor, hfound]
  exact ⟨_, rfl⟩

/-! ## Templates -/

/-- `CloudscaleMachineTemplateStatus`. -/
structure CloudscaleMachineTemplateStatus where
  observedGeneration : Int := 0
  capacity : ResourceList := []
  deriving DecidableEq, Repr

/-- `CloudscaleMachineTemplate`: the spec of its machines and its status. -/
structure CloudscaleMachineTemplate where
  metadata : ObjectMeta
  generation : Int := 1
  spec : CloudscaleMachineSpec := {}
  status : CloudscaleMachineTemplateStatus := {}
  deriving DecidableEq, Repr

/-- `CloudscaleMachineTemplateCustomDefaulter.Default`. -/
def machineTemplateDefault (t : CloudscaleMachineTemplate) : CloudscaleMachineTemplate :=
  { t with spec := { t.spec with interfaces := defaultInterfaceIPFamily t.spec.interfaces } }

/-- `CloudscaleMachineTemplateCustomValidator.ValidateCreate`. -/
def machineTemplateValidateCreate (flavorInfo : Option FlavorInfo) (t : CloudscaleMachineTemplate) :
    Review :=
  { warnings := [], errs := validateMachineSpec t.spec flavorInfo "spec.template.spec" }

/-- `CloudscaleMachineTemplateCustomValidator.ValidateUpdate`; `dryRun` is `IsDryRunRequest`. -/
def machineTemplateValidateUpdate (dryRun : Bool) (oldObj newObj : CloudscaleMachineTemplate) :
    Review :=
  { warnings := []
    errs := errorIf (¬ dryRun ∧ newObj.spec ≠ oldObj.spec)
      (.forbidden "spec.template.spec" "field is immutable") }

/-- `CloudscaleMachineTemplateReconciler.Reconcile`: the status that is patched, if any. -/
def machineTemplateReconcile (flavorInfo : Option (List Flavor)) (t : CloudscaleMachineTemplate) :
    Option CloudscaleMachineTemplateStatus :=
  match flavorInfo with
  | none => none
  | some flavors =>
    if t.spec.flavor = "" then none
    else match getCapacity flavors t.spec.flavor with
      | .error _ => none
      | .ok capacity => some { capacity, observedGeneration := t.generation }

/-- `Patch`: what differs from the snapshot is written or removed, the rest is left as it is. -/
def patchTemplateStatus (before after stored : CloudscaleMachineTemplateStatus) :
    CloudscaleMachineTemplateStatus where
  observedGeneration :=
    if after.observedGeneration = before.observedGeneration then stored.observedGeneration
    else after.observedGeneration
  capacity := (after.capacity.filter fun q => before.capacity.lookup q.1 ≠ some q.2) ++
    stored.capacity.filter fun q => before.capacity.lookup q.1 = after.capacity.lookup q.1

/-! ## Templates over time -/

variable {flavors later : List Flavor} {run : List CloudscaleMachineTemplate}
  {t : CloudscaleMachineTemplate} {status : CloudscaleMachineTemplateStatus}

/-- The versions of a stored template, oldest first. It was accepted with `flavors`. The status is
written by the controller only, which may have read an old version. -/
inductive TemplateRun (flavors : List Flavor) : List CloudscaleMachineTemplate → Prop where
  | create {t : CloudscaleMachineTemplate} :
      (machineTemplateValidateCreate (some (newFlavorInfo flavors))
        (machineTemplateDefault t)).Accepted →
      TemplateRun flavors [{ machineTemplateDefault t with status := {} }]
  | update {run : List CloudscaleMachineTemplate} {prev t : CloudscaleMachineTemplate} :
      TemplateRun flavors (run ++ [prev]) →
      (machineTemplateValidateUpdate false prev (machineTemplateDefault t)).Accepted →
      TemplateRun flavors (run ++ [prev] ++ [{ machineTemplateDefault t with
        -- the API server counts the changes of the spec
        generation := prev.generation + if (machineTemplateDefault t).spec = prev.spec then 0 else 1
        status := prev.status }])
  | reconcile {run : List CloudscaleMachineTemplate} {prev seen : CloudscaleMachineTemplate}
      {later : List Flavor} {status : CloudscaleMachineTemplateStatus} :
      TemplateRun flavors (run ++ [prev]) → seen ∈ run ++ [prev] → KeepsFlavors flavors later →
      machineTemplateReconcile (some later) seen = some status →
      TemplateRun flavors (run ++ [prev] ++
        [{ prev with status := patchTemplateStatus seen.status status prev.status }])

/-- A spec that is defaulted and was accepted with `flavors`. -/
structure AcceptedSpec (flavors : List Flavor) (spec : CloudscaleMachineSpec) : Prop where
  defaulted : defaultInterfaceIPFamily spec.interfaces = spec.interfaces
  known : spec.flavor ∈ flavors.map (·.slug)
  tags : ∀ p, validateTags spec.tags p = []
  interfaces : ∀ p, validateInterfaces spec.interfaces p = []

/-- What the status says is true of the flavor, as passes have found it. -/
structure Reported (flavors : List Flavor) (t : CloudscaleMachineTemplate) : Prop where
  generation : t.status.observedGeneration ∈ [0, t.generation]
  capacity : ∀ q ∈ t.status.capacity, ∃ later capacity, KeepsFlavors flavors later ∧
    getCapacity later t.spec.flavor = .ok capacity ∧ q ∈ capacity

theorem reports_of_pass (h : machineTemplateReconcile (some flavors) t = some status) :
    getCapacity flavors t.spec.flavor = .ok status.capacity ∧
      status.observedGeneration = t.generation := by
  unfold machineTemplateReconcile at h
  dsimp only at h
  split_ifs at h
  split at h
  · cases h
  · rename_i hcapacity
    cases h
    exact ⟨hcapacity, rfl⟩

theorem validateTags_blind (tags : TagMap) : PathBlind (validateTags tags) := by
  intro p q h
  refine List.flatMap_eq_nil_iff.mpr fun kv hkv => ?_
  simpa using List.flatMap_eq_nil_iff.mp h kv hkv

theorem validateInterfaces_blind (interfaces : List InterfaceSpec) :
    PathBlind (validateInterfaces interfaces) := by
  have hiface (iface : InterfaceSpec) : PathBlind (validateInterface iface) := by
    refine .append .errorIf ?_
    cases iface.ipFamily with
    | none => exact .nil
    | some fam => exact .errorIf
  exact .append (.errorsAt hiface interfaces) .errorIf

theorem acceptedSpec_of_create
    (h : (machineTemplateValidateCreate (some (newFlavorInfo flavors))
      (machineTemplateDefault t)).Accepted) :
    AcceptedSpec flavors (machineTemplateDefault t).spec := by
  have herrs : validateMachineSpec _ _ _ = [] := h
  simp only [validateMachineSpec, List.append_eq_nil_iff] at herrs
  obtain ⟨⟨hflavor, htags⟩, hifaces⟩ := herrs
  refine ⟨defaultInterfaceIPFamily_idem _, ?_, fun p => validateTags_blind _ _ p htags,
    fun p => validateInterfaces_blind _ _ p hifaces⟩
  simpa [FlavorInfo.isValidFlavor, newFlavorInfo] using hflavor

theorem AcceptedSpec.validates {spec : CloudscaleMachineSpec} (h : AcceptedSpec flavors spec)
    (hlater : KeepsFlavors flavors later) (p : Path) :
    validateMachineSpec spec (some (newFlavorInfo later)) p = [] := by
  have hknown : (newFlavorInfo later).isValidFlavor spec.flavor = true := by
    simpa [FlavorInfo.isValidFlavor, newFlavorInfo] using hlater h.known
  simp [validateMachineSpec, hknown, h.tags, h.interfaces]

/-- The spec never changes, and so the generation does not either. -/
theorem TemplateRun.fixed (h : TemplateRun flavors run) :
    ∃ spec generation, AcceptedSpec flavors spec ∧
      ∀ t ∈ run, t.spec = spec ∧ t.generation = generation ∧ Reported flavors t := by
  induction h with
  | create hacc =>
      refine ⟨_, _, acceptedSpec_of_create hacc, List.forall_mem_singleton.mpr ⟨rfl, rfl, ?_⟩⟩
      exact ⟨List.mem_cons_self, by simp⟩
  | @update run prev t _ hacc ih =>
      obtain ⟨spec, generation, hspec, hall⟩ := ih
      have hsame : (machineTemplateDefault t).spec = prev.spec := by
        have herrs : errorIf _ _ = [] := hacc
        simpa using herrs
      obtain ⟨hprev, hgen, hrep⟩ := hall prev (by simp)
      refine ⟨spec, generation, hspec, List.forall_mem_append.mpr ⟨hall, ?_⟩⟩
      refine List.forall_mem_singleton.mpr ⟨hsame.trans hprev, by simpa [hsame] using hgen, ?_⟩
      exact ⟨by simpa [hsame] using hrep.generation, by simpa [hsame] using hrep.capacity⟩
  | @reconcile run prev seen later status _ hseen hlater hpass ih =>
      obtain ⟨spec, generation, hspec, hall⟩ := ih
      obtain ⟨hprev, hgen, hrep⟩ := hall prev (by simp)
      obtain ⟨hold, hgen', -⟩ := hall seen hseen
      obtain ⟨hcapacity, hobserved⟩ := reports_of_pass hpass
      refine ⟨spec, generation, hspec, List.forall_mem_append.mpr ⟨hall, ?_⟩⟩
      refine List.forall_mem_singleton.mpr ⟨hprev, hgen, ?_, fun q hq => ?_⟩
      · dsimp only [patchTemplateStatus]
        split_ifs
        · exact hrep.generation
        · simp [hobserved, hgen, hgen']
      · rcases List.mem_append.mp hq with hq | hq
        -- the version that was read has the same flavor
        · exact ⟨later, _, hlater, hprev.trans hold.symm ▸ hcapacity, (List.mem_filter.mp hq).1⟩
        · exact hrep.capacity q (List.mem_filter.mp hq).1

/-- As long as no flavor is withdrawn, every version of a template yields machines that are accepted
as they are, every pass reports the capacity of its flavor, and whatever has been reported is that
of its flavor. -/
theorem template_serves (h : TemplateRun flavors run) (ht : t ∈ run)
    (hnamed : "" ∉ flavors.map (·.slug)) (hlater : KeepsFlavors flavors later) :
    (∀ m : CloudscaleMachine, m.spec = t.spec → machineDefault m = m ∧
      (machineValidateCreate (some (newFlavorInfo later)) m).Accepted) ∧
    (∃ capacity, getCapacity later t.spec.flavor = .ok capacity ∧
      machineTemplateReconcile (some later) t = some
        { capacity, observedGeneration := t.generation }) ∧
    Reported flavors t := by
  obtain ⟨spec, generation, hspec, hall⟩ := h.fixed
  obtain ⟨rfl, -, hrep⟩ := hall t ht
  refine ⟨fun m hm => ⟨?_, ?_⟩, ?_, hrep⟩
  · rw [machineDefault, hm, hspec.defaulted, ← hm]
  · change validateMachineSpec m.spec _ _ = []
    rw [hm]
    exact hspec.validates hlater _
  · obtain ⟨capacity, hcapacity⟩ := getCapacity_of_mem (hlater hspec.known)
    have hne : t.spec.flavor ≠ "" := fun hempty => hnamed (hempty ▸ hspec.known)
    refine ⟨capacity, hcapacity, ?_⟩
    unfold machineTemplateReconcile
    dsimp only
    rw [if_neg hne, hcapacity]

/-! ### A template with a public interface -/

def flexFlavor : Flavor := { slug := "flex-4-2", vcpuCount := 2, memoryGB := 4 }

def publicTemplate : CloudscaleMachineTemplate where
  metadata := { name := "t", ns := "default" }
  spec := { flavor := "flex-4-2", interfaces := [{ type := "public" }] }

def flexStatus : CloudscaleMachineTemplateStatus :=
  { observedGeneration := 1, capacity := [("cpu", "2"), ("memory", "4Gi")] }

/-- The template after a pass, and after another one that has read it before the first. -/
def reportedTemplate : CloudscaleMachineTemplate :=
  { machineTemplateDefault publicTemplate with status := patchTemplateStatus {} flexStatus {} }

def staleTemplate : CloudscaleMachineTemplate :=
  { reportedTemplate with status := patchTemplateStatus {} flexStatus reportedTemplate.status }

/-- Its machines are accepted with both address families, and its capacity is that of the flavor. -/
theorem publicTemplate_serves :
    TemplateRun [flexFlavor]
      [machineTemplateDefault publicTemplate, reportedTemplate, staleTemplate] ∧
    (∀ m : CloudscaleMachine, m.spec = staleTemplate.spec → machineDefault m = m ∧
      (machineValidateCreate (some (newFlavorInfo [flexFlavor])) m).Accepted) ∧
    machineTemplateReconcile (some [flexFlavor]) staleTemplate = some flexStatus ∧
    staleTemplate.status = flexStatus ∧ Reported [flexFlavor] staleTemplate := by
  have hcreated : TemplateRun [flexFlavor] ([] ++ [machineTemplateDefault publicTemplate]) :=
    .create (t := publicTemplate) (by decide)
  have hreported : TemplateRun [flexFlavor]
      ([machineTemplateDefault publicTemplate] ++ [reportedTemplate]) :=
    hcreated.reconcile List.mem_cons_self (List.Subset.refl _) (by decide)
  have hrun : TemplateRun [flexFlavor]
      [machineTemplateDefault publicTemplate, reportedTemplate, staleTemplate] :=
    hreported.reconcile (show machineTemplateDefault publicTemplate ∈ _ from List.mem_cons_self)
      (List.Subset.refl _) (by decide)
  obtain ⟨hmachines, ⟨capacity, hcapacity, hpass⟩, hrep⟩ :=
    template_serves hrun (List.mem_of_getLast? rfl) (by decide) (List.Subset.refl _)
  refine ⟨hrun, hmachines, hpass.trans ?_, by decide, hrep⟩
  have hflex : getCapacity [flexFlavor] "flex-4-2" = .ok flexStatus.capacity := by decide
  cases hflex.symm.trans hcapacity
  rfl

end Capcs.Webhook
