import Capcs.Ownership.Normal

/-!
# Capcs.Ownership.Teardown — a delete pass

Teardown only ever removes resources (`Shrinks`), and every identifier it deletes
was created for the cluster. In a clean world it removes the finalizer only after
everything the status records is gone, which is everything there was.

* `Swept` — what the loops over recorded entries leave behind.
* `reconcileDelete_spec` — the whole pass.
-/

namespace Capcs.Ownership

open Cloudscale Controller
open Interaction (Contract Proc)
open Interaction.Contract

variable {ι α : Type} {slot : Slots ι} {R : Role ι} {clean : Prop} {A : Admitted}
  {c₀ c c' : CloudscaleCluster} {w w' w'' : World ι} {ks : List Kind} {k : Kind}

/-! ## Shrinking worlds -/

/-- No resource was added (in a clean world), and no creation forgotten. -/
structure Shrinks (R : Role ι) (clean : Prop) (w w' : World ι) : Prop where
  grows : Remembers R.owner w w'
  cloud : clean → ∀ k, ∀ i ∈ w'.cloud k, i ∈ w.cloud k
  created : clean → w'.created = w.created

namespace Shrinks

protected theorem refl (w : World ι) : Shrinks R clean w w :=
  ⟨fun _ _ h => h, fun _ _ _ h => h, fun _ => rfl⟩

protected theorem trans (h : Shrinks R clean w w') (h' : Shrinks R clean w' w'') :
    Shrinks R clean w w'' :=
  ⟨h.grows.trans h'.grows, fun hc k i hi => h.cloud hc k i (h'.cloud hc k i hi),
    fun hc => (h'.created hc).trans (h.created hc)⟩

theorem later (h : Later R clean w w') : Shrinks R clean w w' :=
  ⟨h.grows, fun hc _ _ hi => (h.2 hc) ▸ hi, fun hc => (h.2 hc) ▸ rfl⟩

theorem remove (w : World ι) (k : Kind) (id : String) : Shrinks R clean w (w.remove k id) :=
  ⟨fun _ _ h => h, fun _ _ _ hi => mem_of_mem_remove hi, fun _ => rfl⟩

theorem gone (h : Shrinks R clean w w') (hc : clean) {id : String} (hg : w.Gone k id) :
    w'.Gone k id := fun i hi => hg i (h.cloud hc k i hi)

end Shrinks

theorem ClusterOK.shrinks (h : ClusterOK slot R clean A none c w)
    (hs : Shrinks R clean w w') : ClusterOK slot R clean A none c w' :=
  h.move hs.grows fun hc k hk i hi hcr =>
    h.recorded hc k hk i (hs.cloud hc k i hi) (hs.created hc ▸ hcr)

/-- Nothing of kind `k` created for the owner exists. -/
def NoneOf (R : Role ι) (clean : Prop) (k : Kind) (w : World ι) : Prop :=
  clean → ∀ i ∈ w.cloud k, (R.owner, k, i.uuid) ∉ w.created

theorem NoneOf.shrinks (h : NoneOf R clean k w) (hs : Shrinks R clean w w') :
    NoneOf R clean k w' := fun hc i hi hcr =>
  h hc i (hs.cloud hc k i hi) (hs.created hc ▸ hcr)

/-- A kind with one recorded resource has none left once that one is out of the
way. -/
theorem ClusterOK.noneOf {id : String} (h : ClusterOK slot R clean A none c w)
    (hinv : Inv slot w) (hnoted : ∀ u, InStatusOf k c u → id = u) (hrep : Replaced clean k id w) :
    NoneOf R clean k w := fun hc i hi hcr =>
  hrep.ne hinv hc hi (hnoted _ (h.recorded hc k (by simp) i hi hcr)).symm

/-- The status is in order, and these kinds are gone. -/
structure Down (slot : Slots ι) (R : Role ι) (clean : Prop) (A : Admitted)
    (c₀ : CloudscaleCluster) (ks : List Kind) (c : CloudscaleCluster) (w : World ι) : Prop where
  inOrder : InOrder slot R clean A c₀ c w
  none : ∀ k ∈ ks, NoneOf R clean k w

theorem Down.shrinks (h : Down slot R clean A c₀ ks c w) (hs : Shrinks R clean w w') :
    Down slot R clean A c₀ ks c w' :=
  ⟨⟨h.inOrder.same, h.inOrder.ok.shrinks hs⟩, fun k hk => (h.none k hk).shrinks hs⟩

theorem Down.setCondition (h : Down slot R clean A c₀ ks c w) (t : ConditionType)
    (status : ConditionStatus) (reason : Reason) (message : String) :
    Down slot R clean A c₀ ks (setCondition t status reason message c) w :=
  ⟨h.inOrder.setCondition t status reason message, h.none⟩

theorem Down.cons (h : Down slot R clean A c₀ ks c w) (hk : NoneOf R clean k w) :
    Down slot R clean A c₀ (k :: ks) c w :=
  ⟨h.inOrder, List.forall_mem_cons.mpr ⟨hk, h.none⟩⟩

/-! ## Calls that keep the object -/

/-- Since the object was `c` and the world `w`, nothing was edited or added. -/
def Calm (R : Role ι) (clean : Prop) (c : CloudscaleCluster) (w : World ι)
    (c' : CloudscaleCluster) (w' : World ι) : Prop := c' = c ∧ Shrinks R clean w w'

theorem perform_calm {op : Op} (hguard : ∀ w', Remembers R.owner w w' → Guard slot R w' op)
    (hsame : ∀ (w' : World ι) r w'', Answers R.owner w' op r w'' → w'' = w') :
    (api slot R clean).Preserves (Calm R clean c w) (Proc.perform op : ClusterM op.Reply) :=
  fun _ _ _ h => perform_spec (fun _ hl => hguard _ (h.2.grows.trans hl.grows)) hsame
    fun _ _ hl _ _ => ⟨h.1, h.2.trans (.later hl)⟩

/-- A delete, with what its outcome says about the resource. -/
theorem svcDelete_calm {id : String} (hown : (R.owner, k, id) ∈ w.created) :
    (api slot R clean).wpc (fun out c' w' => Calm R clean c w c' w' ∧
        (clean → (∀ e, out = .ok (.error e) → isNotFound e) → w'.Gone k id))
      (svcDelete k id) c w := by
  refine delete_spec hown ?_ ?_
  · intro w' hl _
    exact ⟨⟨rfl, (Shrinks.later hl).trans (.remove w' k id)⟩, fun _ _ => gone_remove w' k id⟩
  · rintro w' w'' e hl _ hw hf
    refine ⟨⟨rfl, (Shrinks.later hl).trans ?_⟩, fun hc hout => hf hc (hout e rfl)⟩
    rcases hw with rfl | rfl
    · exact .refl w''
    · exact .remove w' k id

/-! ## The floating IP and the load balancer -/

/-- Deleting the one recorded resource of a kind and clearing its record with `f`. -/
theorem deleteRecorded_spec {id pre : String} {f : CloudscaleCluster → CloudscaleCluster}
    (hinv : Inv slot w) (h : Down slot R clean A c₀ ks c w)
    (hown : (R.owner, k, id) ∈ w.created)
    (hclear : ∀ w', Inv slot w' → Shrinks R clean w w' → Replaced clean k id w' →
      Down slot R clean A c₀ ks (f c) w' ∧ NoneOf R clean k w') :
    (api slot R clean).wpc (fun out c' w' => Down slot R clean A c₀ ks c' w' ∧
        (out = .ok () → NoneOf R clean k w'))
      (svcDelete k id >>= fun reply => match reply with
        | .ok _ => Proc.update f
        | .error err => if isNotFound err then Proc.update f else Proc.fail (wrapApi pre err))
      c w := by
  rw [wpc_bind]
  refine wpc_mono hinv (svcDelete_calm hown) ?_
  rintro out c' w' hinv' ⟨⟨rfl, hs⟩, hgone⟩
  -- the record is cleared only when the resource is gone, whoever removed it
  rcases out with e | e | _
  · exact ⟨h.shrinks hs, by simp⟩
  · simp only [after_ok, wpc_ite]
    split
    · next hnf =>
        obtain ⟨hd, hn⟩ := hclear w' hinv' hs fun hc =>
          .inr (hgone hc fun e' he' => by cases he'; exact hnf)
        exact ⟨hd, fun _ => hn⟩
    · exact ⟨h.shrinks hs, by simp⟩
  · obtain ⟨hd, hn⟩ := hclear w' hinv' hs fun hc => .inr (hgone hc (by simp))
    exact ⟨hd, fun _ => hn⟩

theorem deleteManagedFloatingIP_spec (hf : ManagedFIP c₀.spec.floatingIP) (hinv : Inv slot w)
    (h : Down slot R clean A c₀ ks c w) :
    (api slot R clean).wpc (fun out c' w' => Down slot R clean A c₀ ks c' w' ∧
        (out = .ok () → NoneOf R clean .floatingIP w')) deleteManagedFloatingIP c w := by
  have hf' : ManagedFIP c.spec.floatingIP := h.inOrder.same.floatingIP ▸ hf
  rw [deleteManagedFloatingIP, wpc_read_bind]
  split
  · next hid =>
      exact ⟨h, fun _ => h.inOrder.ok.noneOf hinv (fun _ hn => hn.2) fun _ => .inl hid⟩
  · next hid =>
      refine deleteRecorded_spec hinv h
        ((floatingIPField.get_own hf' h.inOrder.ok).resolve_left hid) ?_
      intro w' hinv' hs hrep
      have h' := h.shrinks hs
      exact ⟨⟨⟨h'.inOrder.same.status _, floatingIPField.cleared hf' h'.inOrder.ok hinv' hrep⟩,
        h'.none⟩, h'.inOrder.ok.noneOf hinv' (fun _ hn => hn.2) hrep⟩

theorem deleteFloatingIP_spec (hinv : Inv slot w) (h : Down slot R clean A c₀ ks c w) :
    (api slot R clean).wpc (fun out c' w' => Down slot R clean A c₀ ks c' w' ∧
        (out = .ok () → NoneOf R clean .floatingIP w')) deleteFloatingIP c w := by
  -- without a managed floating IP nothing of the kind was ever recorded
  have hnone : ¬ ManagedFIP c.spec.floatingIP → NoneOf R clean .floatingIP w :=
    fun hf hc i hi hcr => hf (h.inOrder.ok.recorded hc _ (by simp) i hi hcr).1
  rw [deleteFloatingIP, wpc_read_bind]
  cases hs : c.spec.floatingIP with
  | none => exact ⟨h, fun _ => hnone (by simp [ManagedFIP, hs])⟩
  | some fipSpec =>
      simp only
      split
      · next ha => exact ⟨h, fun _ => hnone (by simpa [ManagedFIP, hs] using ha)⟩
      · next ha =>
          have hf : ManagedFIP c₀.spec.floatingIP :=
            ⟨fipSpec, h.inOrder.same.floatingIP ▸ hs, not_not.mp ha⟩
          refine (wpc_deferred _ _).mpr (wpc_mono hinv (deleteManagedFloatingIP_spec hf hinv h) ?_)
          rintro out c' w' - ⟨h', hn⟩
          cases out <;> exact ⟨h'.setCondition _ _ _ _, hn⟩

theorem ClusterOK.clearLoadBalancer (h : ClusterOK slot R clean A none c w)
    (hen : LBEnabled c.spec) (hinv : Inv slot w)
    (hrep : Replaced clean .loadBalancer c.status.loadBalancerID w) :
    ClusterOK slot R clean A none (Controller.clearLoadBalancer c) w :=
  have hrec := (loadBalancerField.cleared hen h hinv hrep).recorded
  ⟨h.fits, h.covers, h.networks, h.routers, .inl rfl, .inl rfl, .inl rfl, .inl rfl,
    h.floatingIP, hrec⟩

theorem deleteLoadBalancer_spec (hinv : Inv slot w) (h : Down slot R clean A c₀ ks c w) :
    (api slot R clean).wpc (fun out c' w' => Down slot R clean A c₀ ks c' w' ∧
        (out = .ok () → NoneOf R clean .loadBalancer w')) deleteLoadBalancer c w := by
  rw [deleteLoadBalancer, wpc_read_bind]
  split
  · next hdis =>
      refine ⟨h, fun _ hc i hi hcr => ?_⟩
      have hen := (h.inOrder.ok.recorded hc _ (by simp) i hi hcr).1
      simp [hen] at hdis
  · next hen =>
      have hen' : LBEnabled c.spec := by
        rw [LBEnabled]
        simpa using hen
      -- its parts are gone with it, so all their IDs are cleared
      have hcleared : ∀ w', Inv slot w' → Shrinks R clean w w' →
          Replaced clean .loadBalancer c.status.loadBalancerID w' →
          Down slot R clean A c₀ ks (clearLoadBalancer c) w' ∧
            NoneOf R clean .loadBalancer w' := by
        intro w' hinv' hs hrep
        have h' := h.shrinks hs
        exact ⟨⟨⟨h'.inOrder.same.status _, h'.inOrder.ok.clearLoadBalancer hen' hinv' hrep⟩,
          h'.none⟩, h'.inOrder.ok.noneOf hinv' (fun _ hn => hn.2) hrep⟩
      have hbody : (api slot R clean).wpc (fun out c' w' =>
          Down slot R clean A c₀ ks c' w' ∧ (out = .ok () → NoneOf R clean .loadBalancer w'))
          (if c.status.loadBalancerID = "" then Proc.update clearLoadBalancer
            else svcDelete .loadBalancer c.status.loadBalancerID >>= fun reply => match reply with
              | .ok _ => Proc.update clearLoadBalancer
              | .error err => if isNotFound err then Proc.update clearLoadBalancer
                else Proc.fail (wrapApi "deleting load balancer: " err)) c w := by
        split
        · next hid =>
            obtain ⟨hd, hn⟩ := hcleared w hinv (.refl w) fun _ => .inl hid
            exact ⟨hd, fun _ => hn⟩
        · next hid =>
            exact deleteRecorded_spec hinv h (h.inOrder.ok.loadBalancer.resolve_left hid) hcleared
      refine (wpc_deferred _ _).mpr (wpc_mono hinv hbody ?_)
      rintro out c' w' - ⟨h', hn⟩
      cases out <;> exact ⟨h'.setCondition _ _ _ _, hn⟩

/-! ## Server groups -/

theorem deleteEachServerGroup_calm (owned : List String) (groups : List ServerGroup)
    (hown : ∀ g ∈ groups, (R.owner, .serverGroup, g.uuid) ∈ w.created) :
    (api slot R clean).Preserves (Calm R clean c w) (deleteEachServerGroup owned groups) := by
  induction groups with
  | nil => exact .pure _
  | cons g rest ih =>
      have hrest := ih fun g' hg' => hown g' (List.mem_cons_of_mem _ hg')
      refine .ite (fun _ => .fail _) fun _ => .ite (fun _ => hrest) fun _ => ?_
      refine .bind ?_ fun reply => ?_
      · rintro c' w' hinv ⟨rfl, hs⟩
        refine wpc_mono hinv (svcDelete_calm (hs.grows _ _ (hown g List.mem_cons_self))) ?_
        rintro out c' w'' - ⟨⟨rfl, hs'⟩, -⟩
        exact ⟨rfl, hs.trans hs'⟩
      · cases reply with
        | ok _ => exact hrest
        | error e => exact .ite (fun _ => hrest) fun _ => .fail _

theorem deleteServerGroups_spec (hinv : Inv slot w) (h : Down slot R clean A c₀ ks c w) :
    (api slot R clean).wpc (fun _ => Down slot R clean A c₀ ks)
      (deleteServerGroups A.cluster) c w := by
  have hids : (api slot R clean).Preserves (Calm R clean c w) (getOwnedServerIDs A.cluster) := by
    refine .read_any fun c => .bind
      (perform_calm (fun _ _ => trivial) fun _ _ _ h => by cases h; rfl) fun reply => ?_
    cases reply with
    | error e => exact .fail _
    | ok machines => exact .pure _
  rw [deleteServerGroups, wpc_bind, wpc_wrapErr]
  refine wpc_mono hinv (hids c w hinv ⟨rfl, .refl w⟩) ?_
  rintro out c' w' hinv' ⟨rfl, hs⟩
  cases out with
  | error e => exact h.shrinks hs
  | ok ids =>
      simp only [Except.mapError, after_ok, wpc_bind, wpc_read]
      have hslot : slot R.owner .serverGroup (clusterOwnershipTags c') := by
        rw [clusterOwnershipTags_eq, h.inOrder.ok.covers.name]
        exact h.inOrder.ok.fits.serverGroup
      refine list_spec hslot ?_ ?_
      · intro w'' groups hl hinv'' hgroups
        have h'' := h.shrinks (hs.trans (.later hl))
        -- whatever carries the tags was created for the cluster
        have hown : ∀ g ∈ groups, (R.owner, Kind.serverGroup, g.uuid) ∈ w''.created := by
          intro g hg
          have hmem : identOf (k := .serverGroup) g ∈ w''.listed .serverGroup
              (clusterOwnershipTags c') := hgroups ▸ List.mem_map_of_mem hg
          obtain ⟨hex, hm⟩ := List.mem_filter.mp hmem
          exact hinv''.owned _ _ _ hslot _ hex hm
        simp only [after_ok]
        refine wpc_mono hinv'' (deleteEachServerGroup_calm ids groups hown c' w'' hinv''
          ⟨rfl, .refl w''⟩) ?_
        rintro out c'' w₃ - ⟨rfl, hs'⟩
        exact h''.shrinks hs'
      · intro w'' e hl _ _
        exact h.shrinks (hs.trans (.later hl))

/-! ## Loops over recorded entries -/

/-- What a loop over recorded entries leaves behind: what is dropped no longer
exists, what stays looks the same, and without an error only entries without a
managed resource stay. `mid` gives the identifier of a managed resource. -/
structure Swept {γ κ : Type} (clean : Prop) (k : Kind) (view : γ → κ) (mid : κ → Option String)
    (entries remaining : List γ) (errs : List GoError) (w : World ι) : Prop where
  same : ∀ e' ∈ remaining, ∃ e ∈ entries, view e = view e'
  kept : clean → ∀ i ∈ w.cloud k, ∀ e ∈ entries, mid (view e) = some i.uuid →
    ∃ e' ∈ remaining, mid (view e') = some i.uuid
  clear : errs = [] → ∀ e' ∈ remaining, mid (view e') = none

namespace Swept

variable {γ κ : Type} {view : γ → κ} {mid : κ → Option String} {e e' : γ}
  {rest remaining : List γ} {errs errs' : List GoError}

theorem nil : Swept clean k view mid [] [] [] w := ⟨by simp, by simp, by simp⟩

theorem keep (h : Swept clean k view mid rest remaining errs w) (hview : view e' = view e)
    (herrs : errs' = [] → errs = [] ∧ mid (view e) = none) :
    Swept clean k view mid (e :: rest) (e' :: remaining) errs' w where
  same a ha := by
    rcases List.mem_cons.mp ha with rfl | ha
    · exact ⟨e, List.mem_cons_self, hview.symm⟩
    · obtain ⟨b, hb, heq⟩ := h.same a ha
      exact ⟨b, List.mem_cons_of_mem _ hb, heq⟩
  kept hc i hi a ha hm := by
    rcases List.mem_cons.mp ha with rfl | ha
    · exact ⟨e', List.mem_cons_self, hview ▸ hm⟩
    · obtain ⟨b, hb, heq⟩ := h.kept hc i hi a ha hm
      exact ⟨b, List.mem_cons_of_mem _ hb, heq⟩
  clear he a ha := by
    obtain ⟨he', hm⟩ := herrs he
    rcases List.mem_cons.mp ha with rfl | ha
    · exact hview ▸ hm
    · exact h.clear he' a ha

theorem drop (h : Swept clean k view mid rest remaining errs w)
    (hgone : clean → ∀ i ∈ w.cloud k, mid (view e) ≠ some i.uuid) :
    Swept clean k view mid (e :: rest) remaining errs w where
  same a ha := by
    obtain ⟨b, hb, heq⟩ := h.same a ha
    exact ⟨b, List.mem_cons_of_mem _ hb, heq⟩
  kept hc i hi a ha hm := by
    rcases List.mem_cons.mp ha with rfl | ha
    · exact absurd hm (hgone hc i hi)
    · exact h.kept hc i hi a ha hm
  clear := h.clear

end Swept

/-- A loop over entries sweeps them, started in `w` and keeping the object. -/
def Sweeps {γ κ : Type} (slot : Slots ι) (R : Role ι) (clean : Prop) (c : CloudscaleCluster)
    (k : Kind) (view : γ → κ) (mid : κ → Option String) (entries : List γ)
    (m : ClusterM (List γ × List GoError)) (w : World ι) : Prop :=
  (api slot R clean).wpc (fun out c' w' => Calm R clean c w c' w' ∧
    ∀ remaining errs, out = .ok (remaining, errs) →
      Swept clean k view mid entries remaining errs w') m c w

namespace Sweeps

variable {γ κ : Type} {view : γ → κ} {mid : κ → Option String} {e e' : γ} {rest : List γ}
  {m : ClusterM (List γ × List GoError)}

/-- The loop has been going on since `w`. -/
theorem since {entries : List γ} (hinv : Inv slot w')
    (h : Sweeps slot R clean c k view mid entries m w') (hs : Shrinks R clean w w') :
    (api slot R clean).wpc (fun out c' w'' => Calm R clean c w c' w'' ∧
      ∀ remaining errs, out = .ok (remaining, errs) →
        Swept clean k view mid entries remaining errs w'') m c w' := by
  refine wpc_mono hinv h ?_
  rintro out c' w'' - ⟨⟨rfl, hs'⟩, hswept⟩
  exact ⟨⟨rfl, hs.trans hs'⟩, hswept⟩

/-- An entry is dropped: its identifier is empty, or its resource is gone. -/
theorem drop {id : String} (hinv : Inv slot w)
    (h : Sweeps slot R clean c k view mid rest m w)
    (hmid : ∀ u, mid (view e) = some u → u = id) (hrep : Replaced clean k id w) :
    Sweeps slot R clean c k view mid (e :: rest) m w := by
  refine wpc_mono hinv h ?_
  rintro out c' w' hinv' ⟨⟨rfl, hs⟩, hswept⟩
  refine ⟨⟨rfl, hs⟩, fun remaining errs hout => (hswept remaining errs hout).drop ?_⟩
  have hrep' : Replaced clean k id w' := fun hc => (hrep hc).imp_right (hs.gone hc)
  exact fun hc i hi hm => hrep'.ne hinv' hc hi (hmid _ hm)

/-- An entry is kept, with the errors met at it. -/
theorem keep (first : List GoError) (hinv : Inv slot w)
    (h : Sweeps slot R clean c k view mid rest m w) (hview : view e' = view e)
    (hfirst : first = [] → mid (view e) = none) :
    Sweeps slot R clean c k view mid (e :: rest)
      (m >>= fun p => pure (e' :: p.1, first ++ p.2)) w := by
  refine wpc_bind.mpr (wpc_mono hinv h ?_)
  rintro out c' w' - ⟨hcalm, hswept⟩
  cases out with
  | error e => exact ⟨hcalm, by simp⟩
  | ok p =>
      refine ⟨hcalm, ?_⟩
      rintro remaining errs ⟨⟩
      refine (hswept p.1 p.2 rfl).keep hview fun he => ?_
      obtain ⟨hf, hp⟩ := List.append_eq_nil_iff.mp he
      exact ⟨hp, hfirst hf⟩

end Sweeps

/-! ## Routers -/

/-- The identifier of a managed router. -/
def managedRouterID (key : String × String × Bool) : Option String :=
  if key.2.2 then some key.2.1 else none

theorem detachInterfaces_calm {rs : RouterStatus} (hmay : May w R .router rs.routerID)
    (router : Router) (ifaces : List RouterInterfaceStatus) :
    (api slot R clean).Preserves (Calm R clean c w) (detachInterfaces rs router ifaces) := by
  induction ifaces with
  | nil => exact .pure _
  | cons iface rest ih =>
      refine .ite (fun _ => .bind ih fun _ => .pure _) fun _ => .read_any fun _ => ?_
      refine .ite (fun _ => ih) fun _ => .bind
        (perform_calm (fun _ hg => hmay.grows hg) fun _ _ _ h => by cases h; rfl) fun reply => ?_
      cases reply with
      | ok _ => exact ih
      | error e => exact .ite (fun _ => ih) fun _ => .bind ih fun _ => .pure _

theorem deleteRouterInterfaces_spec {rs : RouterStatus} (hinv : Inv slot w)
    (hmay : May w R .router rs.routerID) :
    (api slot R clean).wpc (fun out c' w' => Calm R clean c w c' w' ∧
        ∀ rs' errs, out = .ok (rs', errs) → routerKey rs' = routerKey rs)
      (deleteRouterInterfaces rs) c w := by
  rw [deleteRouterInterfaces]
  split
  · refine ⟨⟨rfl, .refl w⟩, ?_⟩
    rintro rs' errs ⟨⟩
    rfl
  · rw [wpc_bind]
    have hget : (api slot R clean).Preserves (Calm R clean c w) (svcGet .router rs.routerID) :=
      perform_calm (fun _ hg _ => hmay.grows hg) fun _ _ _ h => by cases h <;> rfl
    refine wpc_mono hinv (hget c w hinv ⟨rfl, .refl w⟩) ?_
    rintro out c' w' hinv' ⟨rfl, hs⟩
    -- in every case the entry keeps its key
    rcases out with e | e | router
    · exact ⟨⟨rfl, hs⟩, by simp⟩
    · simp only [after_ok, wpc_ite]
      split
      · refine ⟨⟨rfl, hs⟩, ?_⟩
        rintro rs' errs ⟨⟩
        rfl
      · refine ⟨⟨rfl, hs⟩, ?_⟩
        rintro rs' errs ⟨⟩
        rfl
    · simp only [after_ok, wpc_bind]
      refine wpc_mono hinv'
        (detachInterfaces_calm (hmay.grows hs.grows) router _ c' w' hinv' ⟨rfl, .refl w'⟩) ?_
      rintro out c'' w'' - ⟨rfl, hs'⟩
      cases out with
      | error e => exact ⟨⟨rfl, hs.trans hs'⟩, by simp⟩
      | ok p =>
          refine ⟨⟨rfl, hs.trans hs'⟩, ?_⟩
          rintro rs' errs ⟨⟩
          rfl

theorem managedRouterID_eq {e : RouterStatus} {u : String}
    (h : managedRouterID (routerKey e) = some u) : u = e.routerID := by
  cases hm : e.managed with
  | false => simp [managedRouterID, routerKey, hm] at h
  | true => simpa [managedRouterID, routerKey, hm, eq_comm] using h

/-- The loop of `deleteRouters`. -/
theorem deleteEachRouter_sweeps (entries : List RouterStatus) :
    ∀ w : World ι, Inv slot w →
      (∀ e ∈ entries, e.managed = true → Own w R.owner .router e.routerID) →
      (∀ e ∈ entries, May w R .router e.routerID) →
      Sweeps slot R clean c .router routerKey managedRouterID entries
        (deleteEachRouter entries) w := by
  induction entries with
  | nil =>
      refine fun w _ _ _ => ⟨⟨rfl, .refl w⟩, ?_⟩
      rintro remaining errs ⟨⟩
      exact .nil
  | cons entry rest ih =>
      intro w hinv hown hmay
      -- the rest of the loop, from any later world
      have hrest : ∀ w', Inv slot w' → Shrinks R clean w w' →
          Sweeps slot R clean c .router routerKey managedRouterID rest
            (deleteEachRouter rest) w' := fun w' hinv' hs =>
        ih w' hinv' (fun e he hm => (hown e (List.mem_cons_of_mem _ he) hm).grows hs.grows)
          fun e he => (hmay e (List.mem_cons_of_mem _ he)).grows hs.grows
      rw [deleteEachRouter]
      by_cases hid : entry.routerID = ""
      · simp only [hid, if_true]
        exact (hrest w hinv (.refl w)).drop hinv (fun _ => managedRouterID_eq) fun _ => .inl hid
      simp only [hid, if_false]
      refine wpc_bind.mpr (wpc_mono hinv (deleteRouterInterfaces_spec hinv
        (hmay entry List.mem_cons_self)) ?_)
      rintro out c' w' hinv' ⟨⟨rfl, hs⟩, hkey⟩
      rcases out with e | ⟨router, ifaceErrs⟩
      · exact ⟨⟨rfl, hs⟩, by simp⟩
      · have hkey' := hkey router ifaceErrs rfl
        obtain ⟨-, hrid, hman⟩ : _ ∧ router.routerID = entry.routerID ∧
            router.managed = entry.managed := by simpa [routerKey] using hkey'
        have hrest' := hrest w' hinv' hs
        simp only [after_ok]
        split
        · next hne => exact (hrest'.keep _ hinv' hkey' (absurd · hne)).since hinv' hs
        · split
          · next hno =>
              refine (hrest'.keep [] hinv' hkey' fun _ => ?_).since hinv' hs
              simpa [managedRouterID, routerKey, ← hman] using hno
          · next hyes =>
              -- a managed router: delete it
              have hcr : (R.owner, Kind.router, router.routerID) ∈ w'.created := by
                have hm : entry.managed = true := by simpa [← hman] using hyes
                rw [hrid]
                exact hs.grows _ _ ((hown entry List.mem_cons_self hm).resolve_left hid)
              refine wpc_bind.mpr (wpc_mono hinv' (svcDelete_calm hcr) ?_)
              rintro out c'' w'' hinv'' ⟨⟨rfl, hs'⟩, hgone⟩
              have hrest'' := hrest w'' hinv'' (hs.trans hs')
              rw [hrid] at hgone
              rcases out with e | e | _
              · exact ⟨⟨rfl, hs.trans hs'⟩, by simp⟩
              · simp only [after_ok]
                split
                · next hnf =>
                    exact (hrest''.drop hinv'' (fun _ => managedRouterID_eq) fun hc =>
                      .inr (hgone hc fun e' he' => by cases he'; exact hnf)).since hinv''
                        (hs.trans hs')
                · exact (hrest''.keep [_] hinv'' hkey' (by simp)).since hinv''
                    (hs.trans hs')
              · exact (hrest''.drop hinv'' (fun _ => managedRouterID_eq) fun hc =>
                  .inr (hgone hc (by simp))).since hinv'' (hs.trans hs')

theorem deleteRouters_spec (hinv : Inv slot w) (h : Down slot R clean A c₀ ks c w) :
    (api slot R clean).wpc (fun out c' w' => Down slot R clean A c₀ ks c' w' ∧
        (out = .ok () → NoneOf R clean .router w')) deleteRouters c w := by
  have hown : ∀ e ∈ c.status.routers, e.managed = true → Own w R.owner .router e.routerID := by
    intro e he hm
    obtain ⟨r, -, -, hman, hown, -⟩ := h.inOrder.ok.routers e he
    exact hown (hman.mp hm)
  have hmay : ∀ e ∈ c.status.routers, May w R .router e.routerID := by
    intro e he
    obtain ⟨r, hr, -, -, hown, hid⟩ := h.inOrder.ok.routers e he
    by_cases hu : r.uuid = ""
    · exact .inl (hown hu)
    · rcases hid hu with hempty | hsame
      · exact .inl (.inl hempty)
      · exact .inr (hsame ▸ h.inOrder.ok.fits.routerIDs r hr hu)
  rw [deleteRouters, wpc_deferred, wpc_read_bind, wpc_bind]
  refine wpc_mono hinv (deleteEachRouter_sweeps c.status.routers w hinv hown hmay) ?_
  rintro out c' w' - ⟨⟨rfl, hs⟩, hswept⟩
  have h' := h.shrinks hs
  rcases out with e | ⟨remaining, errs⟩
  · exact ⟨h'.setCondition _ _ _ _, by simp⟩
  · have hsw := hswept remaining errs rfl
    -- every router that exists is in an entry that stayed
    have hrec : clean → ∀ i ∈ w'.cloud .router, (R.owner, .router, i.uuid) ∈ w'.created →
        ∃ e ∈ remaining, e.managed = true ∧ e.routerID = i.uuid := by
      intro hc i hi hcr
      obtain ⟨e, he, hm, hid⟩ := h'.inOrder.ok.recorded hc .router (by simp) i hi hcr
      obtain ⟨e', he', hmid⟩ := hsw.kept hc i hi e he
        (by simp [managedRouterID, routerKey, hm, hid])
      refine ⟨e', he', ?_, (managedRouterID_eq hmid).symm⟩
      by_contra hno
      simp [managedRouterID, routerKey, hno] at hmid
    have hd : Down slot R clean A c₀ ks
        { c' with status := { c'.status with routers := remaining } } w' :=
      ⟨⟨h'.inOrder.same.status _, (h'.inOrder.ok.weaken _).setRouters
        (routersOwned_view h'.inOrder.ok.routers hsw.same) hrec⟩, h'.none⟩
    cases errs with
    | nil =>
        refine ⟨hd.setCondition _ _ _ _, fun _ hc i hi hcr => ?_⟩
        obtain ⟨e, he, hm, -⟩ := hrec hc i hi hcr
        simpa [managedRouterID, routerKey, hm] using hsw.clear rfl e he
    | cons err errs => exact ⟨hd.setCondition _ _ _ _, by simp⟩

/-! ## Networks -/

/-- The identifier of a managed network. -/
def managedNetworkID (e : NetworkStatus) : Option String :=
  if e.managed then some e.networkID else none

theorem managedNetworkID_eq {e : NetworkStatus} {u : String} (h : managedNetworkID e = some u) :
    u = e.networkID := by
  cases hm : e.managed with
  | false => simp [managedNetworkID, hm] at h
  | true => simpa [managedNetworkID, hm, eq_comm] using h

/-- The loop of `deleteNetwork`. -/
theorem deleteNetworks_sweeps (entries : List NetworkStatus) :
    ∀ w : World ι, Inv slot w →
      (∀ e ∈ entries, e.managed = true → Own w R.owner .network e.networkID) →
      Sweeps slot R clean c .network id managedNetworkID entries (deleteNetworks entries) w := by
  induction entries with
  | nil =>
      refine fun w _ _ => ⟨⟨rfl, .refl w⟩, ?_⟩
      rintro remaining errs ⟨⟩
      exact .nil
  | cons entry rest ih =>
      intro w hinv hown
      -- the rest of the loop, from any later world
      have hrest : ∀ w', Inv slot w' → Shrinks R clean w w' →
          Sweeps slot R clean c .network id managedNetworkID rest (deleteNetworks rest) w' :=
        fun w' hinv' hs =>
          ih w' hinv' fun e he hm => (hown e (List.mem_cons_of_mem _ he) hm).grows hs.grows
      have hnow := hrest w hinv (.refl w)
      rw [deleteNetworks]
      by_cases hman : entry.managed = true
      swap
      · have hman' : entry.managed = false := by simpa using hman
        simp only [hman', Bool.not_false, if_true]
        exact hnow.keep [] hinv rfl fun _ => by simp [managedNetworkID, hman']
      simp only [hman, Bool.not_true, Bool.false_eq_true, if_false]
      by_cases hid : entry.networkID = ""
      · simp only [hid, if_true]
        exact hnow.drop hinv (fun _ => managedNetworkID_eq) fun _ => .inl hid
      simp only [hid, if_false]
      have hcr := (hown entry List.mem_cons_self hman).resolve_left hid
      refine wpc_bind.mpr (wpc_mono hinv (svcDelete_calm hcr) ?_)
      rintro out c' w' hinv' ⟨⟨rfl, hs⟩, hgone⟩
      have hrest' := hrest w' hinv' hs
      rcases out with e | e | _
      · exact ⟨⟨rfl, hs⟩, by simp⟩
      · simp only [after_ok]
        split
        · exact ⟨⟨rfl, hs⟩, by simp⟩
        · split
          · next hnf =>
              exact (hrest'.drop hinv' (fun _ => managedNetworkID_eq) fun hc =>
                .inr (hgone hc fun e' he' => by cases he'; exact hnf)).since hinv' hs
          · exact (hrest'.keep [_] hinv' rfl (by simp)).since hinv' hs
      · exact (hrest'.drop hinv' (fun _ => managedNetworkID_eq) fun hc =>
          .inr (hgone hc (by simp))).since hinv' hs

theorem deleteNetwork_spec (hinv : Inv slot w) (h : Down slot R clean A c₀ ks c w) :
    (api slot R clean).wpc (fun out c' w' => Down slot R clean A c₀ ks c' w' ∧
        (out = .ok () → NoneOf R clean .network w')) deleteNetwork c w := by
  have hown : ∀ e ∈ c.status.networks, e.managed = true → Own w R.owner .network e.networkID := by
    intro e he hm
    obtain ⟨n, -, -, hman, hown⟩ := h.inOrder.ok.networks e he
    exact (hown (hman.mp hm)).1
  rw [deleteNetwork, wpc_deferred, wpc_read_bind, wpc_bind]
  refine wpc_mono hinv (deleteNetworks_sweeps c.status.networks w hinv hown) ?_
  rintro out c' w' - ⟨⟨rfl, hs⟩, hswept⟩
  have h' := h.shrinks hs
  rcases out with e | ⟨remaining, errs⟩
  · exact ⟨h'.setCondition _ _ _ _, by simp⟩
  · have hsw := hswept remaining errs rfl
    -- an entry is dropped only when its network is gone
    have hrec : clean → ∀ i ∈ w'.cloud .network, (R.owner, .network, i.uuid) ∈ w'.created →
        ∃ e ∈ remaining, e.managed = true ∧ e.networkID = i.uuid := by
      intro hc i hi hcr
      obtain ⟨e, he, hm, hid⟩ := h'.inOrder.ok.recorded hc .network (by simp) i hi hcr
      obtain ⟨e', he', hmid⟩ := hsw.kept hc i hi e he (by simp [managedNetworkID, hm, hid])
      refine ⟨e', he', ?_, (managedNetworkID_eq hmid).symm⟩
      by_contra hno
      simp [managedNetworkID, hno] at hmid
    have hsub : NetworksOwned w' R.owner A.networks remaining := by
      intro e' he'
      obtain ⟨e, he, heq⟩ := hsw.same e' he'
      obtain rfl : e = e' := heq
      exact h'.inOrder.ok.networks e he
    have hd : Down slot R clean A c₀ ks
        { c' with status := { c'.status with networks := remaining } } w' :=
      ⟨⟨h'.inOrder.same.status _, (h'.inOrder.ok.weaken _).setNetworks hsub hrec⟩, h'.none⟩
    -- without errors no managed entry is left
    cases errs with
    | nil =>
        refine ⟨hd.setCondition _ _ _ _, fun _ hc i hi hcr => ?_⟩
        obtain ⟨e, he, hm, -⟩ := hrec hc i hi hcr
        simpa [managedNetworkID, hm] using hsw.clear rfl e he
    | cons err errs => exact ⟨hd.setCondition _ _ _ _, by simp⟩

/-! ## The whole pass -/

/-- The kinds a cluster must not leave behind. -/
def tornDownKinds : List Kind := [.network, .subnet, .router, .loadBalancer, .floatingIP]

/-- A subnet goes with its network. -/
theorem NoneOf.subnet (h : NoneOf R clean .network w) (hinv : Inv slot w) :
    NoneOf R clean .subnet w := by
  intro hc s hs hcr
  obtain ⟨hn, hex⟩ := hinv.subnet_parent _ s hs hcr
  refine hex fun n hn' hid => h hc n hn' ?_
  rw [hid]
  exact hn

/-- How a delete pass ends: with the object in order, or with the finalizer taken
off such an object and nothing left behind. -/
def DeleteEnd (slot : Slots ι) (R : Role ι) (clean : Prop) (A : Admitted)
    (c₀ c : CloudscaleCluster) (w : World ι) : Prop :=
  InOrder slot R clean A c₀ c w ∨
    ((∀ k ∈ tornDownKinds, NoneOf R clean k w) ∧ ∃ c₁, InOrder slot R clean A c₀ c₁ w ∧
      c = { c₁ with metadata := { c₁.metadata with
        finalizers := c₁.metadata.finalizers.filter (· ≠ clusterFinalizer) } })

theorem finishDelete_spec (h : InOrder slot R clean A c₀ c w)
    (hnone : ∀ k ∈ tornDownKinds, NoneOf R clean k w) :
    (api slot R clean).wpc (fun _ => DeleteEnd slot R clean A c₀) finishDelete c w :=
  .inr ⟨hnone, _, h.setCondition _ _ _ _, rfl⟩

/-- A teardown that gets to its end leaves nothing of what the cluster has made. -/
theorem reconcileDelete_spec (hinv : Inv slot w) (h : InOrder slot R clean A c₀ c w) :
    (api slot R clean).wpc (fun _ => DeleteEnd slot R clean A c₀)
      (reconcileDelete A.cluster) c w := by
  have hstart : Down slot R clean A c₀ [] (setCondition .deleting .isTrue .deleting
      "Deleting infrastructure resources" c) w := ⟨h.setCondition _ _ _ _, by simp⟩
  rw [reconcileDelete, wpc_update_bind, wpc_bind, wpc_wrapErr]
  refine wpc_mono hinv (deleteFloatingIP_spec hinv hstart) ?_
  rintro out c₁ w₁ hinv₁ ⟨h₁, hfip⟩
  cases out with
  | error e => exact .inl h₁.inOrder
  | ok _ =>
  have h₁' := h₁.cons (hfip rfl)
  simp only [Except.mapError, after_ok, wpc_bind, wpc_wrapErr]
  refine wpc_mono hinv₁ (deleteLoadBalancer_spec hinv₁ h₁') ?_
  rintro out c₂ w₂ hinv₂ ⟨h₂, hlb⟩
  cases out with
  | error e => exact .inl h₂.inOrder
  | ok _ =>
  have h₂' := h₂.cons (hlb rfl)
  simp only [after_ok, requeueOn, wpc_bind, wpc_attempt]
  refine wpc_mono hinv₂ (deleteServerGroups_spec hinv₂ h₂') ?_
  intro out c₃ w₃ hinv₃ h₃
  cases out with
  | error e =>
      simp only [wpc_ite]
      split <;> exact .inl h₃.inOrder
  | ok _ =>
  simp only [wpc_bind, wpc_wrapErr]
  refine wpc_mono hinv₃ (deleteRouters_spec hinv₃ h₃) ?_
  rintro out c₄ w₄ hinv₄ ⟨h₄, hrouter⟩
  cases out with
  | error e => exact .inl h₄.inOrder
  | ok _ =>
  have h₄' := h₄.cons (hrouter rfl)
  simp only [Except.mapError, after_ok, wpc_bind, wpc_attempt]
  refine wpc_mono hinv₄ (deleteNetwork_spec hinv₄ h₄') ?_
  rintro out c₅ w₅ hinv₅ ⟨h₅, hnet⟩
  cases out with
  | error e =>
      simp only [wpc_ite]
      split <;> exact .inl h₅.inOrder
  | ok _ =>
  refine finishDelete_spec h₅.inOrder ?_
  have hn := hnet rfl
  -- what earlier steps removed is still gone, and subnets went with their networks
  simp only [tornDownKinds, List.forall_mem_cons, List.not_mem_nil, false_implies, implies_true,
    and_true]
  exact ⟨hn, hn.subnet hinv₅, h₅.none _ (by simp), h₅.none _ (by simp), h₅.none _ (by simp)⟩

end Capcs.Ownership
