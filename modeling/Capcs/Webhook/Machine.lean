import Capcs.Api.Types
import Capcs.Cloudscale.Regions
import Capcs.Webhook.Cluster

/-!
# Capcs.Webhook.Machine — admission of CloudscaleMachines

`internal/webhook/v1beta2/cloudscalemachine_validation.go` and the webhook that
calls it. What the controllers depend on is `validateTags`: no tag of the user can
shadow a tag the controller looks its resources up with.
-/

namespace Capcs.Webhook

open Cloudscale

/-- `defaultInterfaceIPFamily`. -/
def defaultInterfaceIPFamily (interfaces : List InterfaceSpec) : List InterfaceSpec :=
  interfaces.map fun iface =>
    if iface.type = "public" ∧ iface.ipFamily = none then
      { iface with ipFamily := some .dualStack }
    else iface

/-- `strings.HasPrefix`. -/
def hasPrefix (s pre : String) : Bool := pre.toList.isPrefixOf s.toList

/-- `validateTags`. -/
def validateTags (tags : TagMap) (fldPath : Path) : ErrorList :=
  tags.flatMap fun kv => errorIf (hasPrefix kv.1 nameCloudscaleProviderPrefix)
    (.forbidden (fldPath.key kv.1)
      ("tag key prefix " ++ nameCloudscaleProviderPrefix ++ " is reserved for internal use"))

/-- The text of an IP family. -/
def ipFamilyText : IPFamily → String
  | .ipv4 => "IPv4"
  | .ipv6 => "IPv6"
  | .dualStack => "DualStack"

/-- One round of the loop of `validateInterfaces`. -/
def validateInterface (iface : InterfaceSpec) (ifacePath : Path) : ErrorList :=
  errorIf (iface.type ≠ "" ↔ iface.network ≠ "")
    (.invalid ifacePath "" "exactly one of type or network must be specified") ++
  (iface.ipFamily.elim [] fun fam => errorIf (iface.type ≠ "public")
    (.invalid (ifacePath.child "ipFamily") (ipFamilyText fam)
      "ipFamily can only be set on public interfaces (type: public)"))

/-- `validateInterfaces`. -/
def validateInterfaces (interfaces : List InterfaceSpec) (fldPath : Path) : ErrorList :=
  let publicCount := interfaces.countP fun iface => iface.type = "public"
  errorsAt (fun iface i => validateInterface iface (fldPath.index i)) interfaces ++
  errorIf (1 < publicCount) (.tooMany fldPath publicCount 1)

/-- `validateMachineSpec`. -/
def validateMachineSpec (spec : CloudscaleMachineSpec) (flavorInfo : Option FlavorInfo)
    (fldPath : Path) : ErrorList :=
  (flavorInfo.elim [] fun fi => errorIf (¬ fi.isValidFlavor spec.flavor)
    (.invalid (fldPath.child "flavor") spec.flavor "unknown flavor")) ++
  validateTags spec.tags (fldPath.child "tags") ++
  validateInterfaces spec.interfaces (fldPath.child "interfaces")

/-- `validateMachineSpecUpdate`. A list that is nil and an empty one are the same list here, which
`reflect.DeepEqual` tells apart. -/
def validateMachineSpecUpdate (newSpec oldSpec : CloudscaleMachineSpec) (fldPath : Path) :
    ErrorList :=
  errorIf (newSpec.image ≠ oldSpec.image)
    (.forbidden (fldPath.child "image") "field is immutable") ++
  errorIf (newSpec.flavor ≠ oldSpec.flavor)
    (.forbidden (fldPath.child "flavor") "field is immutable") ++
  errorIf (newSpec.rootVolumeSize ≠ oldSpec.rootVolumeSize)
    (.forbidden (fldPath.child "rootVolumeSize") "field is immutable") ++
  errorIf (oldSpec.providerID ≠ none ∧ newSpec.providerID ≠ oldSpec.providerID)
    (.forbidden (fldPath.child "providerID") "field is immutable once set") ++
  errorIf (newSpec.interfaces ≠ oldSpec.interfaces)
    (.forbidden (fldPath.child "interfaces") "field is immutable") ++
  errorIf (newSpec.serverGroup ≠ oldSpec.serverGroup)
    (.forbidden (fldPath.child "serverGroup") "field is immutable") ++
  validateTags newSpec.tags (fldPath.child "tags")

/-- `CloudscaleMachineCustomDefaulter.Default`. -/
def machineDefault (m : CloudscaleMachine) : CloudscaleMachine :=
  { m with spec := { m.spec with interfaces := defaultInterfaceIPFamily m.spec.interfaces } }

/-- `CloudscaleMachineCustomValidator.ValidateCreate`. -/
def machineValidateCreate (flavorInfo : Option FlavorInfo) (m : CloudscaleMachine) : Review :=
  { warnings := [], errs := validateMachineSpec m.spec flavorInfo "spec" }

/-- `CloudscaleMachineCustomValidator.ValidateUpdate`. -/
def machineValidateUpdate (oldMachine newMachine : CloudscaleMachine) : Review :=
  { warnings := [], errs := validateMachineSpecUpdate newMachine.spec oldMachine.spec "spec" }

/-! ## Tags -/

/-- No key is one the controller keeps to itself. -/
def FreeTags (tags : TagMap) : Prop :=
  ∀ kv ∈ tags, hasPrefix kv.1 nameCloudscaleProviderPrefix = false

theorem freeTags_of_validateTags {tags : TagMap} {p : Path} (h : validateTags tags p = []) :
    FreeTags tags := by
  intro kv hkv
  have hnil := List.flatMap_eq_nil_iff.mp h kv hkv
  simpa using hnil

theorem freeTags_of_create {flavorInfo : Option FlavorInfo} {m : CloudscaleMachine}
    (h : (machineValidateCreate flavorInfo m).Accepted) : FreeTags m.spec.tags := by
  have herrs : validateMachineSpec m.spec flavorInfo "spec" = [] := h
  simp only [validateMachineSpec, List.append_eq_nil_iff] at herrs
  exact freeTags_of_validateTags herrs.1.2

theorem freeTags_of_update {m m' : CloudscaleMachine}
    (h : (machineValidateUpdate m m').Accepted) : FreeTags m'.spec.tags := by
  have herrs : validateMachineSpecUpdate m'.spec m.spec "spec" = [] := h
  simp only [validateMachineSpecUpdate, List.append_eq_nil_iff] at herrs
  exact freeTags_of_validateTags herrs.2

/-- A key of the controller is not bound by the tags of the user. -/
theorem FreeTags.lookup_owned {tags : TagMap} (h : FreeTags tags) (name : String) :
    tags.lookup (nameCloudscaleProviderOwned ++ name) = none := by
  rw [List.lookup_eq_none_iff]
  intro kv hkv
  have hfree := h kv hkv
  rw [bne_iff_ne]
  rintro heq
  rw [← heq] at hfree
  simp [hasPrefix, nameCloudscaleProviderOwned, nameCloudscaleProviderPrefix] at hfree

/-! ## Machines over time -/

/-- A history of a stored machine, each version accepted over its predecessor. -/
inductive AdmittedMachines : List CloudscaleMachine → Prop where
  | create {flavors : Option FlavorInfo} {m : CloudscaleMachine} :
      (machineValidateCreate flavors (machineDefault m)).Accepted →
        AdmittedMachines [machineDefault m]
  | update {run : List CloudscaleMachine} {prev m : CloudscaleMachine} :
      AdmittedMachines (run ++ [prev]) → (machineValidateUpdate prev (machineDefault m)).Accepted →
      AdmittedMachines (run ++ [prev, machineDefault m])

theorem serverGroup_of_update {old new : CloudscaleMachine}
    (h : (machineValidateUpdate old new).Accepted) :
    new.spec.serverGroup = old.spec.serverGroup := by
  have herrs : validateMachineSpecUpdate new.spec old.spec "spec" = [] := h
  simp only [validateMachineSpecUpdate, List.append_eq_nil_iff] at herrs
  obtain ⟨⟨-, hgroup⟩, -⟩ := herrs
  simpa using hgroup

/-- The server group of a machine never changes. -/
theorem AdmittedMachines.serverGroup {run : List CloudscaleMachine} (h : AdmittedMachines run) :
    ∃ group, ∀ m ∈ run, m.spec.serverGroup = group := by
  induction h with
  | create _ => exact ⟨_, fun m hm => by rw [List.mem_singleton.mp hm]⟩
  | @update run prev m _ hacc ih =>
      obtain ⟨group, hgroup⟩ := ih
      refine ⟨group, fun v hv => ?_⟩
      simp only [List.mem_append, List.mem_cons, List.not_mem_nil, or_false] at hv
      rcases hv with hv | rfl | rfl
      · exact hgroup v (by simp [hv])
      · exact hgroup v (by simp)
      · exact (serverGroup_of_update hacc).trans (hgroup prev (by simp))

end Capcs.Webhook
