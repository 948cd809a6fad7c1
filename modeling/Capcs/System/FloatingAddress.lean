import Capcs.Controller.Frames
import Capcs.Interaction.Runtime
import Capcs.Ownership.Tenant
import Capcs.System.Belonging

/-!
# Capcs.System.FloatingAddress — addresses that come back

A floating IP is recorded by its address, and an address outlives the floating IP: once that is
gone, the API may give the address to somebody else in the project. Here the passes over a cluster
with a managed floating IP run call by call beside the floating IPs of the project, which others
create and delete in between.

`ensureResource` trusts whatever it finds at the recorded address. So the floating IPs that
are updated and deleted are the cluster's own as long as nobody else's turns up at an address that
was named to the controller before (`floating_ips_own`), and not otherwise (`foreign_deleted`).
-/

namespace Capcs.System

open Cloudscale Controller Webhook
open Ownership (matchesTags_single_self)
open Interaction (Program Proc Runtime Contract Frame)
open Interaction.Contract

/-! ## The project -/

/-- The versions of the cluster stored so far, the newest first, the tags of the floating IPs by
address, and the addresses named to the controller by a create or by a list. -/
structure FloatingWorld where
  versions : List CloudscaleCluster
  fips : String → Option TagMap
  known : List String := []

/-- The ownership tags of the cluster of a name. -/
def ownTags (name : String) :
    TagMap := [(nameCloudscaleProviderOwned ++ name, resourceLifecycleOwned)]

/-- The cluster's ownership tags are among these. -/
def CarriesTag (name : String) (tags : TagMap) : Prop := matchesTags (ownTags name) tags = true

/-- What is at the address, if anything, is the cluster's own. -/
def FloatingWorld.Own (w : FloatingWorld) (name ip : String) : Prop :=
  ∀ tags, w.fips ip = some tags → CarriesTag name tags

/-- A call that changes a floating IP changes one of the cluster. -/
def OwnTarget (name : String) (w : FloatingWorld) : Op → Prop
  | .updateFloatingIP ip _ => w.Own name ip
  | .delete .floatingIP ip => w.Own name ip
  | _ => True

/-- A floating IP comes into being at a free address. -/
def FloatingWorld.put (w : FloatingWorld) (ip : String) (tags : TagMap) : FloatingWorld :=
  { w with fips := Function.update w.fips ip (some tags) }

/-- The floating IP at an address is gone. -/
def FloatingWorld.release (w : FloatingWorld) (ip : String) : FloatingWorld :=
  { w with fips := Function.update w.fips ip none }

/-- The address is free to be given to somebody. -/
def FloatingWorld.Free (w : FloatingWorld) (ip : String) : Prop := ip ≠ "" ∧ w.fips ip = none

/-- How the API answers. A call that fails may have taken effect. -/
inductive FloatingAnswers (w : FloatingWorld) : (op : Op) → op.Reply → FloatingWorld → Prop where
  | found {ip tags} {fip : FloatingIP} : w.fips ip = some tags → fip.ip = ip →
      FloatingAnswers w (.get .floatingIP ip) (.ok fip) w
  | missed {ip err} : FloatingAnswers w (.get .floatingIP ip) (.error err) w
  | listed {filter} {fips : List FloatingIP} :
      (∀ fip ∈ fips, ∃ tags, w.fips fip.ip = some tags ∧ matchesTags filter tags = true) →
      FloatingAnswers w (.list .floatingIP filter) (.ok fips)
        { w with known := fips.map (·.ip) ++ w.known }
  | unlisted {filter err} : FloatingAnswers w (.list .floatingIP filter) (.error err) w
  | created {req} {fip : FloatingIP} : w.Free fip.ip →
      FloatingAnswers w (.create .floatingIP req) (.ok fip)
        { w.put fip.ip req.tags with known := fip.ip :: w.known }
  | refused {req err} : FloatingAnswers w (.create .floatingIP req) (.error err) w
  | lost {req ip err} : w.Free ip →
      FloatingAnswers w (.create .floatingIP req) (.error err) (w.put ip req.tags)
  | deleted {ip r} : FloatingAnswers w (.delete .floatingIP ip) r (w.release ip)
  | undeleted {ip err} : FloatingAnswers w (.delete .floatingIP ip) (.error err) w
  | updated {ip req r} : FloatingAnswers w (.updateFloatingIP ip req) r w
  | other {op r} : partOf op ≠ .floatingIP → FloatingAnswers w op r w

/-- What goes on beside the passes; `allowed` is a condition on floating IPs of others. -/
inductive FloatingEnv (allowed : FloatingWorld → String → TagMap → Prop) (w : FloatingWorld) :
    FloatingWorld → Prop where
  | update {c new : CloudscaleCluster} {vs : List CloudscaleCluster} : w.versions = c :: vs →
      AdmittedUpdate c new → new.metadata.name = c.metadata.name → new.status = c.status →
      FloatingEnv allowed w { w with versions := new :: w.versions }
  /-- The cluster is to be deleted, or loses its status. -/
  | touch {c new : CloudscaleCluster} {vs : List CloudscaleCluster} : w.versions = c :: vs →
      new.spec = c.spec → new.metadata.name = c.metadata.name →
      new.status = c.status ∨ new.status = {} →
      FloatingEnv allowed w { w with versions := new :: w.versions }
  | release {ip : String} : FloatingEnv allowed w (w.release ip)
  | create {ip : String} {tags : TagMap} : w.Free ip → allowed w ip tags →
      FloatingEnv allowed w (w.put ip tags)

/-- Passes over the cluster, one at a time, each over some version. -/
def floatingPasses (allowed : FloatingWorld → String → TagMap → Prop) :
    Runtime FloatingWorld Unit Op Op.Reply (Except GoError Result × CloudscaleCluster) where
  start w _ p w' := w' = w ∧
    ∃ cluster, ∃ before ∈ w.versions, p = clusterWork cluster (unpausedCluster before)
  answer _ := FloatingAnswers
  finish w _ out w' := w' = w ∨ ∃ before c new vs, before ∈ w.versions ∧ w.versions = c :: vs ∧
    ClusterPatched (unpausedCluster before) out.2 c new ∧ new.metadata.name = c.metadata.name ∧
    w' = { w with versions := new :: w.versions }
  crash w _ w' := w' = w
  env := FloatingEnv allowed

/-- No floating IP of somebody else turns up at an address that was named to the controller. -/
def NoComeback (name : String) (w : FloatingWorld) (ip : String) (tags : TagMap) : Prop :=
  ip ∈ w.known → CarriesTag name tags

/-! ## The invariant -/

/-- A cluster with a managed floating IP whose address, if recorded, was named before. -/
structure AddressNamed (name : String) (c : CloudscaleCluster) (w : FloatingWorld) : Prop where
  name : c.metadata.name = name
  managed : ∃ fip, c.spec.floatingIP = some fip ∧ fip.address = ""
  address : c.status.floatingIP = "" ∨ c.status.floatingIP ∈ w.known

structure FloatingInv (name : String) (w : FloatingWorld) : Prop where
  own : ∀ ip ∈ w.known, w.Own name ip
  noEmpty : w.fips "" = none
  versions : ∀ v ∈ w.versions, AddressNamed name v w
  enabled : ∀ v ∈ w.versions, v.spec.controlPlaneLoadBalancer.enabled.isSome = true

variable {name : String} {c c' : CloudscaleCluster} {w w' : FloatingWorld} (cluster : Cluster)

theorem AddressNamed.mono (h : AddressNamed name c w) (hle : w.known ⊆ w'.known) :
    AddressNamed name c w' :=
  ⟨h.name, h.managed, h.address.imp_right fun hmem => hle hmem⟩

theorem AddressNamed.congr (h : AddressNamed name c w) (hname : c'.metadata.name = c.metadata.name)
    (hspec : c'.spec.floatingIP = c.spec.floatingIP)
    (hip : c'.status.floatingIP = "" ∨ c'.status.floatingIP ∈ w.known) : AddressNamed name c' w :=
  ⟨hname.trans h.name, hspec ▸ h.managed, hip⟩

theorem AddressNamed.tags (h : AddressNamed name c w) : clusterOwnershipTags c = ownTags name := by
  rw [clusterOwnershipTags, CloudscaleCluster.clusterTagKey, h.name, ownTags]

/-- There is nothing of others at a recorded address. -/
theorem FloatingInv.ownAt (hinv : FloatingInv name w) {ip : String} (hip : ip = "" ∨ ip ∈ w.known) :
    w.Own name ip := by
  rcases hip with rfl | hmem
  · intro tags htags
    rw [hinv.noEmpty] at htags
    cases htags
  · exact hinv.own ip hmem

theorem carries_ownTags (name : String) :
    CarriesTag name (ownTags name) := matchesTags_single_self _

theorem fips_put (w : FloatingWorld) (ip : String) (tags : TagMap) (ip' : String) :
    (w.put ip tags).fips ip' = if ip' = ip then some tags else w.fips ip' :=
  Function.update_apply _ _ _ _

theorem fips_release (w : FloatingWorld) (ip ip' : String) :
    (w.release ip).fips ip' = if ip' = ip then none else w.fips ip' :=
  Function.update_apply _ _ _ _

theorem FloatingInv.put (hinv : FloatingInv name w) {ip : String} {tags : TagMap}
    (hfree : w.Free ip) (htags : ip ∈ w.known → CarriesTag name tags) :
    FloatingInv name (w.put ip tags) := by
  refine ⟨?_, ?_, fun v hv => (hinv.versions v hv).mono (List.Subset.refl _), hinv.enabled⟩
  · intro ip' hmem tags' htags'
    rw [fips_put] at htags'
    split at htags'
    · next heq =>
      cases htags'
      exact htags (heq ▸ hmem)
    · exact hinv.own ip' hmem tags' htags'
  · rw [fips_put, if_neg hfree.1.symm]
    exact hinv.noEmpty

theorem FloatingInv.release (hinv : FloatingInv name w) (ip : String) :
    FloatingInv name (w.release ip) := by
  refine ⟨?_, ?_, fun v hv => (hinv.versions v hv).mono (List.Subset.refl _), hinv.enabled⟩
  · intro ip' hmem tags htags
    rw [fips_release] at htags
    split at htags
    · cases htags
    · exact hinv.own ip' hmem tags htags
  · rw [fips_release, hinv.noEmpty, ite_self]

/-- More addresses are known, and what is at them is the cluster's own. -/
theorem FloatingInv.learn (hinv : FloatingInv name w) {ips : List String}
    (hown : ∀ ip ∈ ips, w.Own name ip) : FloatingInv name { w with known := ips ++ w.known } := by
  refine ⟨?_, hinv.noEmpty, fun v hv => (hinv.versions v hv).mono (List.subset_append_right _ _),
    hinv.enabled⟩
  intro ip hmem
  rcases List.mem_append.mp hmem with hip | hip
  · exact hown ip hip
  · exact hinv.own ip hip

theorem FloatingInv.store (hinv : FloatingInv name w) {new : CloudscaleCluster}
    (hnew : AddressNamed name new w)
    (henabled : new.spec.controlPlaneLoadBalancer.enabled.isSome = true) :
    FloatingInv name { w with versions := new :: w.versions } := by
  refine ⟨hinv.own, hinv.noEmpty, ?_, ?_⟩
  · intro v hv
    rcases List.mem_cons.mp hv with rfl | hv
    · exact hnew.mono (List.Subset.refl _)
    · exact (hinv.versions v hv).mono (List.Subset.refl _)
  · intro v hv
    rcases List.mem_cons.mp hv with rfl | hv
    · exact henabled
    · exact hinv.enabled v hv

/-! ## Calls -/

/-- Lists and creates are for the cluster's own tags. -/
def OwnRequest (name : String) : Op → Prop
  | .list .floatingIP filter => filter = ownTags name
  | .create .floatingIP req => req.tags = ownTags name
  | _ => True

/-- The calls of a pass. No address is forgotten meanwhile. -/
def floatingCalls (name : String) : Contract FloatingWorld Op Op.Reply where
  inv := FloatingInv name
  rely w w' := w.known ⊆ w'.known
  guard w op := OwnTarget name w op ∧ OwnRequest name op
  answer := FloatingAnswers

theorem FloatingAnswers.inv {op : Op} {r : op.Reply} (h : FloatingAnswers w op r w')
    (hreq : OwnRequest name op) (hinv : FloatingInv name w) : FloatingInv name w' := by
  cases h with
  | found | missed | unlisted | refused | undeleted | updated | other => exact hinv
  | listed hlisted =>
      refine hinv.learn fun ip hip tags htags => ?_
      obtain ⟨fip, hfip, rfl⟩ := List.mem_map.mp hip
      obtain ⟨tags', htags', hmatch⟩ := hlisted fip hfip
      rw [htags] at htags'
      cases htags'
      rwa [show _ = ownTags name from hreq] at hmatch
  | @created req fip hfree =>
      have htags : CarriesTag name req.tags := by
        rw [show req.tags = _ from hreq]
        exact carries_ownTags name
      have hat : ∀ ip ∈ [fip.ip], (w.put fip.ip req.tags).Own name ip := by
        intro ip hip tags hat
        obtain rfl := List.mem_singleton.mp hip
        rw [fips_put, if_pos rfl] at hat
        cases hat
        exact htags
      exact (hinv.put hfree fun _ => htags).learn hat
  | @lost req ip err hfree =>
      -- made, though the reply was lost
      refine hinv.put hfree fun _ => ?_
      rw [show req.tags = _ from hreq]
      exact carries_ownTags name
  | deleted => exact hinv.release _

theorem FloatingAnswers.known {op : Op} {r : op.Reply} (h : FloatingAnswers w op r w') :
    w.known ⊆ w'.known := by
  cases h with
  | listed => exact List.subset_append_right _ _
  | created => exact List.subset_cons_self _ _
  | _ => exact List.Subset.refl _

theorem guard_other {op : Op} (hop : partOf op ≠ .floatingIP) :
    (floatingCalls name).guard w op := by
  cases op with
  | updateFloatingIP => exact absurd rfl hop
  | list k | create k | delete k =>
      cases k with
      | floatingIP => exact absurd rfl hop
      | _ => exact ⟨trivial, trivial⟩
  | _ => exact ⟨trivial, trivial⟩

theorem answers_other {op : Op} {r : op.Reply} (hop : partOf op ≠ .floatingIP)
    (h : FloatingAnswers w op r w') : w' = w := by
  cases h with
  | other => rfl
  | _ => exact absurd rfl hop

/-- A step of a pass that keeps the address in line. -/
abbrev KeepsAddress {α : Type} (name : String) (m : ClusterM α) : Prop :=
  (floatingCalls name).Preserves (AddressNamed name) m

/-- What a step leaves alone if it has nothing to do with floating IPs. -/
def addressOf (c : CloudscaleCluster) : String × Option FloatingIPSpec × String :=
  (c.metadata.name, c.spec.floatingIP, c.status.floatingIP)

theorem AddressNamed.of_addressOf (h : AddressNamed name c w) (hsame : addressOf c' = addressOf c) :
    AddressNamed name c' w := by
  have hip : c'.status.floatingIP = c.status.floatingIP := congrArg (·.2.2) hsame
  exact h.congr (congrArg (·.1) hsame) (congrArg (·.2.1) hsame) (hip ▸ h.address)

theorem keepsAddress_of_frame {α β : Type} {f : CloudscaleCluster → β} {P : Op → Prop}
    {m : ClusterM α} (hm : Frame f P m) (hf : addressOf.FactorsThrough f)
    (hP : ∀ op, P op → partOf op ≠ .floatingIP) :
    KeepsAddress name m := by
  refine hm.preserves ?_ ?_ ?_
  · exact fun c c' w hsame hc => hc.of_addressOf (hf hsame)
  · exact fun c w w' hc hle _ => hc.mono hle
  · intro c w op hop hc _
    refine ⟨guard_other (hP op hop), fun r w' hans _ => ?_⟩
    rwa [answers_other (hP op hop) hans]

theorem about_ne {part : Part} (hne : part ≠ .floatingIP) (op : Op) (hop : About part op) :
    partOf op ≠ .floatingIP := by
  rcases hop with hop | hop
  · rwa [hop]
  · rw [hop]
    decide

/-! ## The floating IP step -/

theorem getFloatingIPTarget_keeps :
    KeepsAddress name (getFloatingIPTarget cluster) := by
  have hm : Frame addressOf (fun op => partOf op = .kube) (getFloatingIPTarget cluster) :=
    getFloatingIPTarget_within cluster fun _ _ _ => rfl
  refine keepsAddress_of_frame hm (fun _ _ => id) fun op hop => ?_
  rw [hop]
  decide

/-- A request of a pass that tracks its address. -/
theorem floating_perform {op : Op}
    {Q : Except GoError op.Reply → CloudscaleCluster → FloatingWorld → Prop}
    (hc : AddressNamed name c w)
    (hguard : ∀ w₁, FloatingInv name w₁ → AddressNamed name c w₁ → (floatingCalls name).guard w₁ op)
    (hQ : ∀ r w₁ w₂, FloatingAnswers w₁ op r w₂ → AddressNamed name c w₂ → Q (.ok r) c w₂) :
    (floatingCalls name).wpc Q (Proc.perform op) c w := by
  rw [wpc_perform]
  intro w₁ hle hinv
  have hc₁ := hc.mono hle
  exact ⟨hguard w₁ hinv hc₁, fun r w₂ hans _ => hQ r w₁ w₂ hans (hc₁.mono hans.known)⟩

/-- The update goes to the recorded address. -/
theorem ensureFloatingIPAssignment_keeps (fip : FloatingIP) :
    KeepsAddress name (ensureFloatingIPAssignment cluster fip) := by
  refine .bind (getFloatingIPTarget_keeps cluster) fun target => ?_
  split
  · exact .pure _
  split
  · exact .pure _
  refine .read fun c w _ hc => ?_
  rw [wpc_bind]
  refine floating_perform hc (fun w₁ hinv hc₁ => ⟨hinv.ownAt hc₁.address, trivial⟩) ?_
  intro r w₁ w₂ _ hc₂
  cases r with
  | ok _ => exact hc₂
  | error err =>
      simp only [after_ok, wpc_ite]
      split <;> exact hc₂

/-- An ID of a floating IP that may be recorded. -/
def Recordable (id : String) (w : FloatingWorld) : Prop := id = "" ∨ id ∈ w.known

theorem AddressNamed.record (h : AddressNamed name c w) {id : String} (hid : Recordable id w) :
    AddressNamed name (setFloatingIP id c) w :=
  h.congr rfl rfl hid

/-- What is found by the cluster's tags has been named. -/
theorem adoptByTags_finds (resourceName : String) (hc : AddressNamed name c w) :
    (floatingCalls name).wpc (fun out c' w' => c' = c ∧ AddressNamed name c w' ∧
        ∀ fip id, out = .ok (fip, id) → Recordable id w')
      (adoptByTags .floatingIP resourceName (clusterOwnershipTags c)) c w := by
  rw [adoptByTags, wpc_bind]
  refine floating_perform hc (fun _ _ _ => ⟨trivial, hc.tags⟩) ?_
  intro r w₁ w₂ hans hc₂
  rcases r with err | _ | ⟨item, _ | ⟨_, _⟩⟩
  · exact ⟨rfl, hc₂, fun _ _ heq => by cases heq⟩
  · refine ⟨rfl, hc₂, fun _ _ heq => ?_⟩
    cases heq
    exact .inl rfl
  · refine ⟨rfl, hc₂, fun _ _ heq => ?_⟩
    cases heq
    cases hans with
    | listed => exact .inr List.mem_cons_self
    | other hop => exact absurd rfl hop
  · exact ⟨rfl, hc₂, fun _ _ heq => by cases heq⟩

/-- A recorded address is trusted if there is something at it. -/
theorem ensureResource_finds (resourceName : String) (hc : AddressNamed name c w) :
    (floatingCalls name).wpc (fun out c' w' => c' = c ∧ AddressNamed name c w' ∧
        ∀ fip id, out = .ok (fip, id) → Recordable id w')
      (ensureResource .floatingIP c.status.floatingIP resourceName
        (clusterOwnershipTags c)) c w := by
  rw [ensureResource, wpc_ite]
  split
  · rw [wpc_bind]
    refine floating_perform hc (fun _ _ _ => ⟨trivial, trivial⟩) ?_
    intro r w₁ w₂ _ hc₂
    cases r with
    | ok fip =>
        refine ⟨rfl, hc₂, fun _ _ heq => ?_⟩
        cases heq
        exact hc₂.address
    | error err =>
        simp only [after_ok, wpc_ite]
        split
        · exact adoptByTags_finds resourceName hc₂
        · exact ⟨rfl, hc₂, fun _ _ heq => by cases heq⟩
  · exact adoptByTags_finds resourceName hc

theorem createFloatingIP_keeps (fipSpec : FloatingIPSpec) :
    KeepsAddress name (createFloatingIP cluster fipSpec) := by
  refine .read fun c w hinv hc => ?_
  have htags := hc.tags
  refine Preserves.bind (getFloatingIPTarget_keeps cluster) (fun target => ?_) c w hinv hc
  intro c₁ w₁ hinv₁ hc₁
  rw [createResource, wpc_bind, wpc_bind]
  refine floating_perform hc₁ (fun _ _ _ => ⟨trivial, htags⟩) ?_
  intro r w₂ w₃ hans hc₃
  cases r with
  | ok fip =>
      refine hc₃.record (.inr ?_)
      cases hans with
      | created => exact List.mem_cons_self
      | other hop => exact absurd rfl hop
  | error err =>
      simp only [after_ok, wpc_ite]
      split <;> exact hc₃

theorem reconcileManagedFloatingIP_keeps (fipSpec : FloatingIPSpec) :
    KeepsAddress name (reconcileManagedFloatingIP cluster fipSpec) := by
  refine .read fun c w hinv hc => ?_
  refine wpc_seq_inv hinv (ensureResource_finds "floating IP" hc) ?_
  rintro out c₁ w₁ hinv₁ ⟨rfl, hc₁, hid⟩
  rcases out with err | ⟨fip, id⟩
  · exact hc₁
  · have hc₂ := hc₁.record (hid fip id rfl)
    rw [after_ok, wpc_update_bind]
    cases fip with
    | none => exact createFloatingIP_keeps cluster fipSpec _ _ hinv₁ hc₂
    | some fip =>
        refine Preserves.ite (J := AddressNamed name) (fun _ => ?_) (fun _ => ?_) _ _ hinv₁ hc₂
        · exact .bind (ensureFloatingIPAssignment_keeps cluster fip) fun _ => .pure _
        · exact createFloatingIP_keeps cluster fipSpec

theorem reconcileFloatingIP_keeps :
    KeepsAddress name (reconcileFloatingIP cluster) := by
  refine .read fun c w hinv hc => ?_
  obtain ⟨fip, hfip, hmanaged⟩ := hc.managed
  rw [hfip]
  refine Preserves.deferred (J := AddressNamed name) ?_ ?_ c w hinv hc
  · rw [if_neg (by simpa using hmanaged)]
    exact reconcileManagedFloatingIP_keeps cluster fip
  · intro out c w hc
    cases out <;> exact hc.of_addressOf rfl

/-- The delete goes to the recorded address. -/
theorem deleteFloatingIP_keeps : KeepsAddress name deleteFloatingIP := by
  refine .read fun c w hinv hc => ?_
  obtain ⟨fip, hfip, hmanaged⟩ := hc.managed
  rw [hfip]
  dsimp only
  rw [if_neg (by simpa using hmanaged)]
  refine Preserves.deferred (J := AddressNamed name) (.read fun c w _ hc => ?_) ?_ c w hinv hc
  · rw [wpc_ite]
    split
    · exact hc
    rw [wpc_bind]
    refine floating_perform hc (fun w₁ hinv hc₁ => ⟨hinv.ownAt hc₁.address, trivial⟩) ?_
    intro r w₁ w₂ _ hc₂
    cases r with
    | ok _ => exact hc₂.record (.inl rfl)
    | error err =>
        simp only [after_ok, wpc_ite]
        split
        · exact hc₂.record (.inl rfl)
        · exact hc₂
  · intro out c w hc
    cases out <;> exact hc.of_addressOf rfl

/-! ## The pass -/

theorem reconcileNormal_keepsAddress :
    KeepsAddress name (reconcileNormal cluster) :=
  reconcileNormal_preserves
    (keepsAddress_of_frame (reconcileNetwork_frame cluster)
      (fun _ _ hsame => (congrArg addressOf hsame :)) (about_ne (by decide)))
    (keepsAddress_of_frame (reconcileRouters_frame cluster)
      (fun _ _ hsame => (congrArg addressOf hsame :)) (about_ne (by decide)))
    (keepsAddress_of_frame (reconcileLoadBalancer_frame cluster)
      (fun _ _ hsame => (congrArg addressOf hsame :)) (about_ne (by decide)))
    (reconcileFloatingIP_keeps cluster)
    (fun lb => keepsAddress_of_frame (finishNormal_frame cluster lb)
      (fun _ _ hsame => (congrArg addressOf hsame :)) fun _ hfalse => hfalse.elim)
    fun _ _ hc => hc.of_addressOf rfl

theorem reconcileDelete_keepsAddress :
    KeepsAddress name (reconcileDelete cluster) := by
  refine reconcileDelete_preserves (fun _ _ _ _ _ _ _ hc => hc.of_addressOf rfl)
    deleteFloatingIP_keeps
    (keepsAddress_of_frame deleteLoadBalancer_frame (fun _ _ hsame => (congrArg addressOf hsame :))
      (about_ne (by decide)))
    (keepsAddress_of_frame (deleteServerGroups_frame cluster) (fun _ _ => id)
      (about_ne (by decide)))
    (keepsAddress_of_frame deleteRouters_frame (fun _ _ hsame => (congrArg addressOf hsame :)) ?_)
    (keepsAddress_of_frame deleteNetwork_frame (fun _ _ hsame => (congrArg addressOf hsame :))
      (about_ne (by decide))) fun _ _ _ hc => hc.of_addressOf rfl
  rintro op (hop | hop) <;> rw [hop] <;> decide

theorem clusterWork_keepsAddress (hinv : FloatingInv name w) (hc : AddressNamed name c w) :
    (floatingCalls name).wp (fun out => AddressNamed name out.2) (clusterWork cluster c) w := by
  rw [clusterWork]
  split
  · exact reconcileDelete_keepsAddress cluster c w hinv hc
  · refine reconcileNormal_keepsAddress cluster _ w hinv (hc.congr ?_ rfl hc.address)
    show (addFinalizer clusterFinalizer c.metadata).name = c.metadata.name
    rw [addFinalizer]
    split <;> rfl

/-! ## The system -/

theorem floatingIP_of_update {old new : CloudscaleCluster} (h : AdmittedUpdate old new)
    (henabled : old.spec.controlPlaneLoadBalancer.enabled.isSome = true) :
    new.spec.floatingIP = old.spec.floatingIP :=
  (extends_of_update henabled h.enabled h.accepted).keeps.floatingIP

theorem floatingIP_patched {before after stored new : CloudscaleCluster}
    (hp : ClusterPatched before after stored new) :
    new.status.floatingIP = stored.status.floatingIP ∨
      new.status.floatingIP = after.status.floatingIP := by
  rcases hp.status with hsame | hsame
  · exact .inl (by rw [hsame])
  · rw [hsame]
    exact patched_or _ _ _

theorem FloatingInv.finish (hinv : FloatingInv name w) {before after new : CloudscaleCluster}
    (hstored : c ∈ w.versions) (hafter : AddressNamed name after w)
    (hp : ClusterPatched before after c new) (hname : new.metadata.name = c.metadata.name) :
    FloatingInv name { w with versions := new :: w.versions } := by
  have hc := hinv.versions c hstored
  have hip : new.status.floatingIP = "" ∨ new.status.floatingIP ∈ w.known := by
    rcases floatingIP_patched hp with hsame | hsame
    · exact hsame ▸ hc.address
    · exact hsame ▸ hafter.address
  rcases hp.spec with hspec | ⟨hadm, -⟩
  · exact hinv.store (hc.congr hname (congrArg (·.floatingIP) hspec) hip)
      (hspec ▸ hinv.enabled c hstored)
  · exact hinv.store
      (hc.congr hname (floatingIP_of_update hadm (hinv.enabled c hstored)) hip) hadm.enabled

theorem FloatingEnv.inv (h : FloatingEnv (NoComeback name) w w') (hinv : FloatingInv name w) :
    FloatingInv name w' ∧ w.known ⊆ w'.known := by
  refine ⟨?_, by cases h <;> exact List.Subset.refl _⟩
  cases h with
  | @update c new vs hvs hadm hname hstatus =>
      have hmem : c ∈ w.versions := hvs ▸ List.mem_cons_self
      have hc := hinv.versions c hmem
      refine hinv.store
        (hc.congr hname (floatingIP_of_update hadm (hinv.enabled c hmem)) ?_) hadm.enabled
      exact hstatus ▸ hc.address
  | @touch c new vs hvs hspec hname hstatus =>
      have hmem : c ∈ w.versions := hvs ▸ List.mem_cons_self
      have hc := hinv.versions c hmem
      refine hinv.store (hc.congr hname (congrArg (·.floatingIP) hspec) ?_)
        (hspec ▸ hinv.enabled c hmem)
      rcases hstatus with hsame | hlost
      · exact hsame ▸ hc.address
      · exact .inl (congrArg (·.floatingIP) hlost)
  | release => exact hinv.release _
  | create hfree hallowed => exact hinv.put hfree hallowed

/-- The passes keep to the addresses that were named to them. -/
def floatingObligations (name : String) : (floatingPasses (NoComeback name)).Obligations where
  inv := FloatingInv name
  rely _ a b := a.known ⊆ b.known
  guard _ a op := OwnTarget name a op ∧ OwnRequest name op
  post _ out a := AddressNamed name out.2 a
  rely_refl _ _ := List.Subset.refl _
  rely_trans _ _ _ _ := List.Subset.trans
  post_rely _ _ _ _ _ hle _ hpost := hpost.mono hle
  start_ok := by
    rintro ⟨⟩ p _ a hinv ⟨rfl, cluster, before, hmem, rfl⟩
    have hc : AddressNamed name (unpausedCluster before) a :=
      (hinv.versions before hmem).of_addressOf rfl
    exact ⟨hinv, fun j hj => absurd rfl hj, clusterWork_keepsAddress cluster hinv hc⟩
  answer_ok := by
    rintro ⟨⟩ op r a b hinv hguard hans
    exact ⟨FloatingAnswers.inv hans hguard.2 hinv, fun j hj => absurd rfl hj⟩
  finish_ok := by
    rintro ⟨⟩ out a b hinv hpost hfin
    refine ⟨?_, fun j hj => absurd rfl hj⟩
    rcases hfin with rfl | ⟨before, c, new, vs, -, hvs, hp, hname, rfl⟩
    · exact hinv
    · exact hinv.finish (hvs ▸ List.mem_cons_self) hpost hp hname
  crash_ok := by
    rintro ⟨⟩ _ a hinv rfl
    exact ⟨hinv, fun j hj => absurd rfl hj⟩
  env_ok := by
    intro a b hinv henv
    obtain ⟨hinv', hle⟩ := FloatingEnv.inv henv hinv
    exact ⟨hinv', fun _ => hle⟩

/-- A new cluster with a managed floating IP, in any project. -/
structure NewFloating (name : String) (w : FloatingWorld) : Prop where
  versions : ∃ c, w.versions = [c] ∧ c.metadata.name = name ∧ c.status.floatingIP = "" ∧
    (∃ fip, c.spec.floatingIP = some fip ∧ fip.address = "") ∧
    c.spec.controlPlaneLoadBalancer.enabled.isSome = true
  noEmpty : w.fips "" = none
  known : w.known = []

theorem NewFloating.inv (h : NewFloating name w) : FloatingInv name w := by
  obtain ⟨c, hvs, hname, hip, hmanaged, henabled⟩ := h.versions
  refine ⟨?_, h.noEmpty, ?_, ?_⟩
  · intro ip hmem
    rw [h.known] at hmem
    cases hmem
  · intro v hv
    rw [hvs, List.mem_singleton] at hv
    exact hv ▸ ⟨hname, hmanaged, .inl hip⟩
  · intro v hv
    rw [hvs, List.mem_singleton] at hv
    exact hv ▸ henabled

/-- However passes, users and others interleave, as long as no floating IP of somebody else turns
up at an address that was named to the controller before: the floating IP that an update or a
delete is about to hit, if there is one, carries the cluster's tags. -/
theorem floating_ips_own {config : Runtime.Config FloatingWorld Unit Op Op.Reply
      (Except GoError Result × CloudscaleCluster)} (hnew : NewFloating name w)
    (hreach : (floatingPasses (NoComeback name)).Reachable (.idle w) config) {op : Op}
    {k : op.Reply → Program Op Op.Reply (Except GoError Result × CloudscaleCluster)}
    (hslot : config.slot () = some (.call op k)) : OwnTarget name config.world op := by
  let O := floatingObligations name
  exact (O.guarded (O.reachable (O.holds_idle hnew.inv) hreach) hslot).1

/-! ## An address that comes back -/

/-- A cluster with a managed floating IP. -/
def floatingCluster : CloudscaleCluster :=
  clusterDefault oneRegion
    { smallCluster with spec := { smallCluster.spec with floatingIP := some {} } }

/-- The project before anything is created in it. -/
def floatingStart : FloatingWorld := { versions := [floatingCluster], fips := fun _ => none }

/-- The address everybody gets. -/
def theAddress : String := "192.0.2.1"

/-- A project where all creates succeed. -/
def addressService (w : FloatingWorld) : (op : Op) → op.Reply × FloatingWorld
  | .create .floatingIP req => (.ok { ip := theAddress, tags := req.tags },
      { w.put theAddress req.tags with known := theAddress :: w.known })
  | .create .network req => (.ok { uuid := "n", zone := req.zone }, w)
  | .create .subnet _ => (.ok { uuid := "s", network := "n" }, w)
  | .create .loadBalancer _ => (.ok { uuid := "lb", status := "running" }, w)
  | .create .pool _ => (.ok { uuid := "pool", loadBalancer := "lb" }, w)
  | .create .listener _ => (.ok { uuid := "listener", pool := "pool" }, w)
  | .create .healthMonitor _ => (.ok { uuid := "monitor", pool := "pool" }, w)
  | .get .loadBalancer _ =>
      (.ok { uuid := "lb", status := "running", vipAddresses := ["198.51.100.1"] }, w)
  | op => (emptyReply op, w)

/-- The address is free when it is given away, and nothing is deleted. -/
def addressFree (w : FloatingWorld) : (op : Op) → op.Reply → Bool
  | .create .floatingIP _, _ => w.fips theAddress = none
  | .delete .floatingIP _, _ => false
  | _, _ => true

theorem addressService_answers (w : FloatingWorld) (op : Op)
    (hfree : addressFree w op (addressService w op).1 = true) :
    FloatingAnswers w op (addressService w op).1 (addressService w op).2 := by
  cases op with
  | create k req =>
      cases k with
      | floatingIP =>
          have hne : theAddress ≠ "" := by decide
          exact .created ⟨hne, by simpa [addressFree] using hfree⟩
      | _ => exact .other nofun
  | get k id =>
      cases k with
      | floatingIP => exact .missed
      | _ => exact .other nofun
  | list k filter =>
      cases k with
      | floatingIP => exact .listed fun fip hfip => absurd hfip (List.not_mem_nil (a := fip))
      | _ => exact .other nofun
  | delete k id =>
      cases k with
      | floatingIP => cases hfree
      | _ => exact .other nofun
  | updateFloatingIP => exact .updated
  | _ => exact .other nofun

/-- The first pass. -/
def floatingPass : (Except GoError Result × CloudscaleCluster) × FloatingWorld :=
  (clusterWork { name := "c", ns := "default" } (unpausedCluster floatingCluster)).drive
    addressService floatingStart

/-- A pass over the only version that nobody interferes with. -/
theorem reaches_stored (allowed : FloatingWorld → String → TagMap → Prop) {cluster : Cluster}
    {v : CloudscaleCluster} {out : Except GoError Result × CloudscaleCluster}
    (hv : w.versions = [v]) (hv' : w'.versions = [v])
    (hexec : Program.Executes FloatingAnswers (clusterWork cluster (unpausedCluster v)) w out w') :
    (floatingPasses allowed).Reachable (.idle w)
      (.idle { w' with versions := withStatusOf v out.2 :: w'.versions }) := by
  have hstart : (floatingPasses allowed).start w () (clusterWork cluster (unpausedCluster v)) w :=
    ⟨rfl, cluster, v, hv ▸ List.mem_singleton.mpr rfl, rfl⟩
  refine (floatingPasses allowed).reachable_finished hstart hexec (.inr ?_)
  exact ⟨v, v, withStatusOf v out.2, [], hv' ▸ List.mem_singleton.mpr rfl, hv',
    clusterPatched_withStatusOf v out.2, rfl, rfl⟩

/-- The version stored after it. -/
def floatingStored : CloudscaleCluster := withStatusOf floatingCluster floatingPass.1.2

/-- The project after it. -/
def floatingRecorded : FloatingWorld :=
  { floatingPass.2 with versions := floatingStored :: floatingPass.2.versions }

theorem reaches_recorded (allowed : FloatingWorld → String → TagMap → Prop) :
    (floatingPasses allowed).Reachable (.idle floatingStart) (.idle floatingRecorded) := by
  have hserved :
    (clusterWork { name := "c", ns := "default" } (unpausedCluster floatingCluster)).served
      addressService addressFree floatingStart = true := by decide +kernel
  have hvs : floatingPass.2.versions = [floatingCluster] := by decide +kernel
  have hexec : Program.Executes FloatingAnswers
      (clusterWork { name := "c", ns := "default" } (unpausedCluster floatingCluster)) floatingStart
      floatingPass.1 floatingPass.2 :=
    Program.executes_drive addressFree addressService_answers _ floatingStart hserved
  exact reaches_stored allowed rfl hvs hexec

/-- A teardown begins with the recorded floating IP. -/
theorem clusterWork_deletes {fip : FloatingIPSpec} {ip : String}
    (hdel : c.metadata.deletionTimestamp = true) (hfip : c.spec.floatingIP = some fip)
    (hmanaged : fip.address = "") (hip : c.status.floatingIP = ip) (hne : ip ≠ "") :
    ∃ k, clusterWork cluster c = .call (.delete .floatingIP ip) k := by
  have hdelete : ∃ k, deleteFloatingIP.exec
      (setCondition .deleting .isTrue .deleting "Deleting infrastructure resources" c) =
        .call (.delete .floatingIP ip) k := by
    rw [deleteFloatingIP, Proc.exec_read_bind]
    simp only [setCondition, hfip, hmanaged, ne_eq, not_true_eq_false, if_false]
    rw [Proc.exec_deferred, deleteManagedFloatingIP, Proc.exec_read_bind]
    simp only [hip, if_neg hne]
    exact ⟨_, rfl⟩
  obtain ⟨k, hk⟩ := hdelete
  have hwrapped : ∃ k, (deleteFloatingIP.wrapErr (.wrap "deleting floating IP: ")).exec
      (setCondition .deleting .isTrue .deleting "Deleting infrastructure resources" c) =
        .call (.delete .floatingIP ip) k := by
    refine ⟨fun r => k r >>= fun out => .ret
      (out.1.mapError (.wrap "deleting floating IP: "), out.2), ?_⟩
    exact congrArg (· >>= _) hk
  obtain ⟨k', hk'⟩ := hwrapped
  rw [clusterWork, if_pos hdel, reconcileDelete, Proc.exec_update_bind, Proc.exec_bind, hk']
  exact ⟨_, rfl⟩

/-- The version with a request for deletion. -/
def floatingDoomed : CloudscaleCluster :=
  { floatingStored with metadata := { floatingStored.metadata with deletionTimestamp := true } }

/-- The user deletes the cluster, and the pass over it is about to delete the floating IP. -/
theorem reaches_delete (allowed : FloatingWorld → String → TagMap → Prop)
    {vs : List CloudscaleCluster} (hvs : w.versions = floatingStored :: vs) : ∃ config k,
      (floatingPasses allowed).Reachable (.idle w) config ∧
      config.slot () = some (.call (.delete .floatingIP theAddress) k) ∧
        config.world.fips = w.fips := by
  have hip : (unpausedCluster floatingDoomed).status.floatingIP = theAddress := by decide +kernel
  obtain ⟨k, hk⟩ := clusterWork_deletes { name := "c", ns := "default" }
    (c := unpausedCluster floatingDoomed) rfl rfl rfl hip (by decide)
  let w' : FloatingWorld := { w with versions := floatingDoomed :: w.versions }
  have htouch : (floatingPasses allowed).Step (.idle w) (.idle w') :=
    .env (.touch hvs rfl rfl (.inl rfl))
  have hstart : (floatingPasses allowed).Step (.idle w') ((Runtime.Config.idle w').set () _ w') :=
    .start rfl ⟨rfl, { name := "c", ns := "default" }, floatingDoomed, List.mem_cons_self, rfl⟩
  refine ⟨_, k, .tail (.single htouch) hstart, ?_, rfl⟩
  simp only [Runtime.Config.set, Function.update_self, hk]

theorem floatingStart_new : NewFloating "c" floatingStart :=
  ⟨⟨floatingCluster, rfl, rfl, rfl, ⟨_, rfl, rfl⟩, rfl⟩, rfl, rfl⟩

/-- The floating IP that a teardown deletes is the cluster's. -/
theorem floating_ips_own_created : ∃ config k,
    (floatingPasses (NoComeback "c")).Reachable (.idle floatingStart) config ∧
    config.slot () = some (.call (.delete .floatingIP theAddress) k) ∧
    config.world.fips theAddress = some (ownTags "c") ∧
    OwnTarget "c" config.world (.delete .floatingIP theAddress) := by
  obtain ⟨config, k, hreach, hslot, hfips⟩ := reaches_delete (NoComeback "c")
    (w := floatingRecorded) rfl
  have hall := (reaches_recorded (NoComeback "c")).trans hreach
  refine ⟨config, k, hall, hslot, ?_, floating_ips_own floatingStart_new hall hslot⟩
  rw [hfips]
  decide +kernel

/-- The floating IP of the cluster is deleted by somebody, the address goes to somebody else's, and
the teardown of the cluster is about to delete that one. -/
theorem foreign_deleted : (clusterValidateCreate oneRegion floatingCluster).Accepted ∧
    NewFloating "c" floatingStart ∧ ∃ config k,
      (floatingPasses fun _ _ _ => True).Reachable (.idle floatingStart) config ∧
      config.slot () = some (.call (.delete .floatingIP theAddress) k) ∧
      config.world.fips theAddress = some [] ∧
      ¬ OwnTarget "c" config.world (.delete .floatingIP theAddress) := by
  let taken := (floatingRecorded.release theAddress).put theAddress []
  obtain ⟨config, k, hreach, hslot, hfips⟩ := reaches_delete (fun _ _ _ => True) (w := taken) rfl
  have hrelease : (floatingPasses fun _ _ _ => True).Step (.idle floatingRecorded)
      (.idle (floatingRecorded.release theAddress)) := .env .release
  have hfree : (floatingRecorded.release theAddress).Free theAddress :=
    ⟨by decide, by rw [fips_release, if_pos rfl]⟩
  have htaken : (floatingPasses fun _ _ _ => True).Step
      (.idle (floatingRecorded.release theAddress)) (.idle taken) := .env (.create hfree trivial)
  have hat : config.world.fips theAddress = some [] := by
    rw [hfips, fips_put, if_pos rfl]
  refine ⟨by decide, floatingStart_new, config, k, ?_, hslot, hat, fun hown => ?_⟩
  · exact (((reaches_recorded _).tail hrelease).tail htaken).trans hreach
  · exact absurd (hown [] hat) (by unfold CarriesTag; decide)

end Capcs.System
