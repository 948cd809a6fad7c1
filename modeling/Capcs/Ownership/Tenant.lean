import Capcs.Ownership.Machine
import Capcs.Ownership.Status
import Capcs.Webhook.Machine
import Mathlib.Data.List.Basic

/-!
# Capcs.Ownership.Tenant — whose tags are whose

A `Tenant` is what the tags of a cluster are built from: the name of the
`CloudscaleCluster`, the name and namespace of the `Cluster` that owns it, and the
names of the networks and routers it manages. Its slots are the filters the
controllers look resources up with, all of a single key.

* `Tenant.Distinct` — when two tenants do not select each other's resources.
* `slots_owner` — pairwise distinct tenants share no slot.
* `clusterRole`, `machineRole` — the reconcilers at work for a tenant, which keep
  apart (`clusterRoles_apart` and the lemmas after it).
-/

namespace Capcs.Ownership

open Cloudscale Controller Webhook

/-- The names a cluster's tags are built from, and the identifiers that its user
puts into its specs. -/
structure Tenant where
  cluster : Cluster
  name : String
  networks : String → Prop
  routers : String → Prop
  adopts : Kind → String → Prop := fun _ _ => True

namespace Tenant

/-- The filters resources of each kind are looked up with. -/
def slot (T : Tenant) : Kind → TagMap → Prop
  | .network, t | .subnet, t => ∃ n, T.networks n ∧ t = networkTags T.cluster n
  | .router, t => ∃ r, T.routers r ∧ t = routerTags T.cluster r
  | .server, t => ∃ m, t = serverTags T.cluster m
  | _, t => t = ownershipTags T.name

/-- The names keep two tenants apart. -/
structure Distinct (T T' : Tenant) : Prop where
  name : T.name ≠ T'.name
  networks : T.cluster.name = T'.cluster.name → ∀ n, T.networks n → ¬ T'.networks n
  routers : T.cluster.name = T'.cluster.name → ∀ r, T.routers r → ¬ T'.routers r
  servers : ∀ m m', serverTags T.cluster m ≠ serverTags T'.cluster m'

end Tenant

/-! ## Tags of one key -/

theorem matchesTags_single {kv : String × String} {tags : TagMap} :
    matchesTags [kv] tags ↔ tags.lookup kv.1 = some kv.2 := by
  simp [matchesTags]

theorem lookup_single {k : String} {kv : String × String} {v : String} :
    List.lookup k [kv] = some v ↔ kv = (k, v) := by
  obtain ⟨k', v'⟩ := kv
  rw [List.lookup_cons, Prod.mk.injEq]
  by_cases h : k = k'
  · simp [h]
  · have hbeq : (k == k') = false := by simpa using h
    simp [hbeq, Ne.symm h]

theorem matchesTags_single_self (kv : String × String) : matchesTags [kv] [kv] :=
  matchesTags_single.mpr (lookup_single.mpr rfl)

theorem eq_of_matchesTags_single {kv kv' : String × String} (h : matchesTags [kv'] [kv]) :
    [kv'] = [kv] := by
  rw [lookup_single.mp (matchesTags_single.mp h)]

theorem owned_inj {a b : String}
    (h : nameCloudscaleProviderOwned ++ a = nameCloudscaleProviderOwned ++ b) : a = b :=
  (String.append_right_inj _).mp h

/-- What stands before the first slash. -/
theorem takeWhile_slash {l rest : List Char} (h : '/' ∉ l) :
    (l ++ '/' :: rest).takeWhile (· ≠ '/') = l := by
  rw [List.takeWhile_append_of_pos]
  · simp
  · intro a ha
    have hne : a ≠ '/' := fun e => h (e ▸ ha)
    simpa using hne

/-- The owner can be read off the value of a server tag, since a namespace is a DNS
label and contains no slash. -/
theorem serverTags_inj {c c' : Cluster} {m m' : String} (hc : '/' ∉ c.ns.toList)
    (hc' : '/' ∉ c'.ns.toList) (h : serverTags c m = serverTags c' m') :
    c.name = c'.name ∧ c.ns = c'.ns := by
  simp only [serverTags, List.cons.injEq, Prod.mk.injEq, and_true] at h
  obtain ⟨hkey, hval⟩ := h
  refine ⟨owned_inj hkey, ?_⟩
  have hl := congrArg (fun v => v.toList.takeWhile (· ≠ '/')) hval
  simp only [String.toList_append, List.append_assoc] at hl
  exact String.toList_injective ((takeWhile_slash hc).symm.trans (hl.trans (takeWhile_slash hc')))

/-! ## Slots of distinct tenants -/

/-- Every slot is a filter of one key, and the key is one of the controller's. -/
theorem Tenant.slot_single {T : Tenant} {k : Kind} {t : TagMap} (h : T.slot k t) :
    ∃ name value, t = [(nameCloudscaleProviderOwned ++ name, value)] := by
  cases k with
  | network | subnet =>
      obtain ⟨n, -, rfl⟩ := h
      exact ⟨_, _, rfl⟩
  | router =>
      obtain ⟨r, -, rfl⟩ := h
      exact ⟨_, _, rfl⟩
  | server =>
      obtain ⟨m, rfl⟩ := h
      exact ⟨_, _, rfl⟩
  | loadBalancer | pool | listener | healthMonitor | floatingIP | serverGroup => exact ⟨_, _, h⟩

theorem Tenant.Distinct.no_slot {T T' : Tenant} (h : T.Distinct T') {k : Kind} {t : TagMap}
    (ht : T.slot k t) : ¬ T'.slot k t := by
  intro ht'
  cases k with
  | network | subnet =>
      obtain ⟨n, hn, rfl⟩ := ht
      obtain ⟨n', hn', heq⟩ := ht'
      simp only [networkTags, List.cons.injEq, Prod.mk.injEq, and_true] at heq
      exact h.networks (owned_inj heq.1) n hn (heq.2 ▸ hn')
  | router =>
      obtain ⟨r, hr, rfl⟩ := ht
      obtain ⟨r', hr', heq⟩ := ht'
      simp only [routerTags, List.cons.injEq, Prod.mk.injEq, and_true] at heq
      exact h.routers (owned_inj heq.1) r hr (heq.2 ▸ hr')
  | server =>
      obtain ⟨m, rfl⟩ := ht
      obtain ⟨m', heq⟩ := ht'
      exact h.servers m m' heq
  | loadBalancer | pool | listener | healthMonitor | floatingIP | serverGroup =>
      obtain rfl : t = ownershipTags T.name := ht
      have heq : ownershipTags T.name = ownershipTags T'.name := ht'
      simp only [ownershipTags, List.cons.injEq, Prod.mk.injEq, and_true] at heq
      exact h.name (owned_inj heq)

section

variable {ι : Type} {k : Kind} {t : TagMap} {i : ι}

/-- A project with tenants that keep apart. -/
structure Project (ι : Type) where
  tenant : ι → Tenant
  distinct : ∀ i j, i ≠ j → (tenant i).Distinct (tenant j)

/-- The slots of all tenants. -/
def Project.slots (P : Project ι) : Slots ι := fun i => (P.tenant i).slot

theorem Project.slots_owner (P : Project ι) {j : ι} (hi : P.slots i k t) (hj : P.slots j k t) :
    i = j := by
  by_contra hne
  exact (P.distinct i j hne).no_slot hi hj

/-- Only a slot itself selects its own tags. -/
theorem Project.slots_only (P : Project ι) {j : ι} {t' : TagMap} (hi : P.slots i k t)
    (hj : P.slots j k t') (hm : matchesTags t' t) : j = i ∧ t' = t := by
  obtain ⟨name, value, rfl⟩ := Tenant.slot_single hi
  obtain ⟨name', value', rfl⟩ := Tenant.slot_single hj
  have heq := eq_of_matchesTags_single hm
  exact ⟨(P.slots_owner hi (heq ▸ hj)).symm, heq⟩

theorem Project.slots_self (P : Project ι) (hi : P.slots i k t) :
    matchesTags t t := by
  obtain ⟨name, value, rfl⟩ := Tenant.slot_single hi
  exact matchesTags_single_self _

/-! ## Roles -/

/-- The reconciler of the `CloudscaleCluster` of a tenant. -/
def Project.clusterRole (P : Project ι) (i : ι) : Role ι where
  owner := i
  turf k t := P.slots i k t ∧ k ≠ .server ∧ k ≠ .serverGroup
  managesMembers := True
  names := (P.tenant i).adopts

/-- The reconciler of a `CloudscaleMachine` of a tenant. -/
def Project.machineRole (P : Project ι) (i : ι) (m : String) : Role ι where
  owner := i
  turf k t := k = .server ∧ t = serverTags (P.tenant i).cluster m
  managesMembers := False
  names _ _ := False

/-- The identifiers in some specs are among those of a tenant. -/
structure Tenant.Adopts (T : Tenant) (networks : List NetworkSpec) (routers : List RouterSpec)
    (floatingIP : Option FloatingIPSpec) : Prop where
  networks : ∀ n ∈ networks, n.uuid ≠ "" → T.adopts .network n.uuid
  routers : ∀ r ∈ routers, r.uuid ≠ "" → T.adopts .router r.uuid
  floatingIP : ∀ f ∈ floatingIP, f.address ≠ "" → T.adopts .floatingIP f.address

/-- The specs of a cluster are those of the tenant. -/
structure Project.Serves (P : Project ι) (i : ι) (A : Admitted) : Prop where
  cluster : A.cluster = (P.tenant i).cluster
  name : A.name = (P.tenant i).name
  networks : ∀ n ∈ A.networks, n.uuid = "" → (P.tenant i).networks n.name
  routers : ∀ r ∈ A.routers, r.uuid = "" → (P.tenant i).routers r.name
  networkNames : ∀ n ∈ A.networks, ∀ n' ∈ A.networks, n.name = n'.name → n.uuid = n'.uuid
  routerNames : ∀ r ∈ A.routers, ∀ r' ∈ A.routers, r.name = r'.name → r.uuid = r'.uuid
  adopts : (P.tenant i).Adopts A.networks A.routers A.floatingIP

theorem Project.mine (P : Project ι) (h : P.slots i k t) (hserver : k ≠ .server)
    (hgroup : k ≠ .serverGroup) : Mine P.slots (P.clusterRole i) k t where
  isSlot := h
  turf := ⟨h, hserver, hgroup⟩
  self := P.slots_self h
  only _ _ ht' hm := P.slots_only h ht' hm

theorem Project.Serves.fits {P : Project ι} {A : Admitted} (h : P.Serves i A) :
    RoleFits P.slots (P.clusterRole i) A where
  networkNames n hn n' hn' he := by rw [h.networkNames n hn n' hn' he]
  routerNames r hr r' hr' he := by rw [h.routerNames r hr r' hr' he]
  network n hn hu := P.mine ⟨n.name, h.networks n hn hu, by rw [h.cluster]⟩ (by simp) (by simp)
  subnet n hn hu := P.mine ⟨n.name, h.networks n hn hu, by rw [h.cluster]⟩ (by simp) (by simp)
  router r hr hu := P.mine ⟨r.name, h.routers r hr hu, by rw [h.cluster]⟩ (by simp) (by simp)
  owned k hk := by
    simp only [clusterKinds, List.mem_cons, List.not_mem_nil, or_false] at hk
    have hname : ownershipTags A.name = ownershipTags (P.tenant i).name := by rw [h.name]
    rcases hk with rfl | rfl | rfl | rfl | rfl <;> exact P.mine hname (by simp) (by simp)
  serverGroup := by
    show ownershipTags A.name = ownershipTags (P.tenant i).name
    rw [h.name]
  members := trivial
  networkIDs := h.adopts.networks
  routerIDs := h.adopts.routers
  addresses := h.adopts.floatingIP

/-- A machine of the tenant, with tags the webhook admits. -/
theorem Project.machineFits (P : Project ι) {s : MachineScope}
    (hcluster : s.cluster = (P.tenant i).cluster)
    (hname : s.cloudscaleCluster.metadata.name = (P.tenant i).name) {tags : TagMap}
    (htags : FreeTags tags) (m : String) :
    MachineFits P.slots (P.machineRole i m) s m tags := by
  have hslot : P.slots i .server (serverTags s.cluster m) := ⟨m, by rw [hcluster]⟩
  have hgroup : P.slots i .serverGroup (clusterOwnershipTags s.cloudscaleCluster) := by
    show clusterOwnershipTags s.cloudscaleCluster = ownershipTags (P.tenant i).name
    rw [clusterOwnershipTags_eq, hname]
  -- what a slot selects by its key is not among the user's tags
  have hlookup : ∀ j t', P.slots j .server t' → matchesTags t' (tags ++ serverTags s.cluster m) →
      matchesTags t' (serverTags s.cluster m) := by
    intro j t' ht' hm
    obtain ⟨name, value, rfl⟩ := Tenant.slot_single ht'
    rw [matchesTags_single, List.lookup_append, htags.lookup_owned, Option.none_or] at hm
    exact matchesTags_single.mpr hm
  refine ⟨hslot, ⟨rfl, by rw [hcluster]⟩, ?_, ?_, hgroup, P.slots_self hgroup, ?_⟩
  · rw [serverTags, matchesTags_single, List.lookup_append, htags.lookup_owned, Option.none_or]
    exact lookup_single.mpr rfl
  · exact fun j t' ht' hm => P.slots_only hslot ht' (hlookup j t' ht' hm)
  · exact fun j t' ht' hm => P.slots_only hgroup ht' hm

/-! ## Roles keep apart -/

theorem Project.clusterRoles_apart (P : Project ι) {j : ι} (hne : i ≠ j) :
    Apart P.slots (P.clusterRole i) (P.clusterRole j) where
  turf _ _ hi hj := hne (P.slots_owner hi.1 hj.1)
  slot _ _ hj := ⟨hj.1, hj.2.2⟩
  members _ _ := hne

theorem Project.cluster_machine_apart (P : Project ι) (i j : ι) (m : String) :
    Apart P.slots (P.clusterRole i) (P.machineRole j m) where
  turf _ _ hi hj := hi.2.1 hj.1
  slot _ _ hj := by
    obtain ⟨rfl, rfl⟩ := hj
    exact ⟨⟨m, rfl⟩, by simp⟩
  members _ hm := hm.elim

theorem Project.machine_cluster_apart (P : Project ι) (i j : ι) (m : String) :
    Apart P.slots (P.machineRole j m) (P.clusterRole i) where
  turf _ _ hj hi := hi.2.1 hj.1
  slot _ _ hi := ⟨hi.1, hi.2.2⟩
  members hm _ := hm.elim

theorem Project.machineRoles_apart (P : Project ι) {j : ι} {m m' : String}
    (hne : (i, m) ≠ (j, m')) : Apart P.slots (P.machineRole i m) (P.machineRole j m') where
  turf _ _ hi hj := by
    obtain ⟨rfl, rfl⟩ := hi
    obtain ⟨-, heq⟩ := hj
    have hij : i = j := P.slots_owner (k := .server) ⟨m, rfl⟩ ⟨m', heq⟩
    subst hij
    refine hne ?_
    simp only [serverTags, List.cons.injEq, Prod.mk.injEq, true_and, and_true] at heq
    rw [(String.append_right_inj _).mp heq]
  slot _ _ hj := by
    obtain ⟨rfl, rfl⟩ := hj
    exact ⟨⟨m', rfl⟩, by simp⟩
  members hm _ := hm.elim

end

end Capcs.Ownership
