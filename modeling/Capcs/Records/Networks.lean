import Capcs.Readiness.Networks
import Capcs.Records.Made

/-!
# Capcs.Records.Networks — the network step and its gap

The entry of a managed network is written once both the network and its subnet are there. In
between lie the calls that look for the subnet and create it, and a failure or a timeout of one of
them ends the pass with a network that no entry refers to (`Cut`). Otherwise the step accounts for
all it has made.
-/

namespace Capcs.Records

open Cloudscale Controller
open Readiness (Trace CallEvent)
open Interaction (Proc Frame New history history_perform Noted)
open Interaction.Contract

variable {σ : Type} {k : Kind} {c c' c₀ : CloudscaleCluster} {h h' t t₁ t₂ : Trace}

/-! ## Replies that hand over a resource -/

/-- The reply gives `ensureResource` or a create site the resource it is after. -/
def handsOver (k : Kind) : (op : Op) → op.Reply → Bool
  | .get k' _, .ok _ => k' = k
  | .list k' _, .ok [r] => k' = k ∧ uuidOf r ≠ ""
  | .create k' _, .ok _ => k' = k
  | _, _ => false

/-- Every `Networks.Create` that has returned a network is followed by a call that has returned a
subnet. -/
def SubnetsFollow (tr : Trace) : Prop :=
  ∀ pre req network post, tr = pre ++ ⟨.create .network req, .ok network⟩ :: post →
    ∃ e ∈ post, handsOver .subnet e.op e.reply = true

/-- Nothing that an event of the trace has made is a network. -/
def NoNetworks (t : Trace) : Prop :=
  ∀ e ∈ t, ∀ id, madeBy e.op e.reply ≠ some (.resource .network id)

theorem SubnetsFollow.of_none (hnone : NoNetworks t) : SubnetsFollow t := by
  rintro pre req network post rfl
  exact (hnone _ (List.mem_append_right _ List.mem_cons_self) _ rfl).elim

/-- Where an event of two traces in a row comes from. -/
theorem cons_of_append {e : CallEvent} {pre post : Trace} (heq : t₁ ++ t₂ = pre ++ e :: post) :
    (∃ mid, t₂ = mid ++ e :: post) ∨ ∃ mid, t₁ = pre ++ e :: mid ∧ post = mid ++ t₂ := by
  rcases List.append_eq_append_iff.mp heq with ⟨mid, -, htail⟩ | ⟨mid, hpre, htail⟩
  · exact .inl ⟨mid, htail⟩
  · cases mid with
    | nil => exact .inl ⟨[], htail.symm⟩
    | cons e' mid =>
        obtain ⟨rfl, rfl⟩ := List.cons.inj htail
        exact .inr ⟨mid, hpre, rfl⟩

theorem SubnetsFollow.append (h₁ : SubnetsFollow t₁) (h₂ : SubnetsFollow t₂) :
    SubnetsFollow (t₁ ++ t₂) := by
  intro pre req network post heq
  rcases cons_of_append heq with ⟨mid, htail⟩ | ⟨mid, hhead, rfl⟩
  · exact h₂ mid req network post htail
  · obtain ⟨e, he, hfound⟩ := h₁ pre req network mid hhead
    exact ⟨e, List.mem_append_left _ he, hfound⟩

/-- Whatever came before, a subnet has been found since. -/
theorem SubnetsFollow.of_found (hfound : ∃ e ∈ t₂, handsOver .subnet e.op e.reply = true)
    (hnone : NoNetworks t₂) : SubnetsFollow (t₁ ++ t₂) := by
  intro pre req network post heq
  rcases cons_of_append heq with ⟨mid, htail⟩ | ⟨mid, -, rfl⟩
  · exact SubnetsFollow.of_none hnone mid req network post htail
  · obtain ⟨e, he, hfound⟩ := hfound
    exact ⟨e, List.mem_append_right _ he, hfound⟩

/-! ## Ensuring a resource -/

/-- How a lookup ends: with an identifier it was given or has seen, or without any. -/
def EnsureEnds (currentID : String) (t : Trace) :
    Except GoError (Option k.Resource × String) → Prop
  | .error _ => ∀ e ∈ t, handsOver k e.op e.reply = false
  | .ok (_, id) =>
    if id = "" then ∀ e ∈ t, handsOver k e.op e.reply = false
    else (∃ e ∈ t, handsOver k e.op e.reply = true) ∧
      (id = currentID ∨ ∃ e ∈ t, id ∈ mentions e.op e.reply)

theorem EnsureEnds.cons {currentID : String} {e : CallEvent}
    {out : Except GoError (Option k.Resource × String)} (hends : EnsureEnds currentID t out)
    (he : handsOver k e.op e.reply = false) : EnsureEnds currentID (e :: t) out := by
  rcases out with _ | ⟨_, id⟩
  · exact List.forall_mem_cons.mpr ⟨he, hends⟩
  · rw [EnsureEnds] at hends ⊢
    split at hends
    · next hid => exact (if_pos hid).mpr (List.forall_mem_cons.mpr ⟨he, hends⟩)
    · next hid =>
      obtain ⟨⟨e₁, he₁, hover⟩, hseen⟩ := hends
      refine (if_neg hid).mpr ⟨⟨e₁, List.mem_cons_of_mem _ he₁, hover⟩, hseen.imp_right ?_⟩
      exact fun ⟨e₂, he₂, hmem⟩ => ⟨e₂, List.mem_cons_of_mem _ he₂, hmem⟩

theorem EnsureEnds.of_read {good : (op : Op) → op.Reply → Prop} {currentID : String} {tags : TagMap}
    {r : (Op.list k tags).Reply} {out : Except GoError (Option k.Resource × String)}
    (hread : ListRead good k tags r out) : EnsureEnds currentID [⟨.list k tags, r⟩] out := by
  cases hread with
  | @one item _ => by_cases hid : uuidOf item = "" <;> simp [EnsureEnds, handsOver, mentions, hid]
  | _ => simp [EnsureEnds, handsOver]

theorem ensureResource_ends {name currentID : String} {tags : TagMap} {s : σ} :
    (history fun _ _ => True).wpc (fun out s' h' => s' = s ∧ ∃ t, h' = h ++ t ∧
        (∀ e ∈ t, IsLookup e.op) ∧ EnsureEnds currentID t out)
      (ensureResource k currentID name tags) s h := by
  refine wpc_imp ensureResource_looksUp ?_
  rintro out _ _ ⟨rfl, t, rfl, hlooks⟩
  refine ⟨rfl, t, rfl, ?_, ?_⟩
  · cases hlooks <;> simp [IsLookup]
  · cases hlooks with
    | found hid => simp [EnsureEnds, hid, handsOver]
    | failed => simp [EnsureEnds, handsOver]
    | gone _ hread => exact (EnsureEnds.of_read hread).cons rfl
    | listed _ hread => exact .of_read hread

theorem made_none_of_lookups (hlookups : ∀ e ∈ t, IsLookup e.op) :
    ∀ e ∈ t, madeBy e.op e.reply = none :=
  fun e he => madeBy_lookup (hlookups e he) e.reply

/-! ## Network and subnet -/

/-- How the network half ends: the network was found, or it is what the last call has made. -/
def NetworkEnds (currentID : String) (t : Trace) :
    Except GoError (Except Result (Option Network × String)) → Prop
  | .ok (.ok (_, id)) =>
    ((id ≠ "" ∧ id = currentID) ∨ ∃ e ∈ t, id ∈ mentions e.op e.reply) ∧
      ∃ looks tail, t = looks ++ tail ∧ (∀ e ∈ looks, madeBy e.op e.reply = none) ∧
        (tail = [] ∨ ∃ req network, tail = [⟨.create .network req, .ok network⟩] ∧
          network.uuid = id)
  | .ok (.error result) => result.isZero = false ∧ ∀ e ∈ t, madeBy e.op e.reply = none
  | .error _ => ∀ e ∈ t, madeBy e.op e.reply = none

theorem resolveNetwork_ends (n : NetworkSpec) (networkID : String) (tags : TagMap) :
    (history fun _ _ => True).wpc
      (fun out c' h' => c' = c ∧ ∃ t, h' = h ++ t ∧ NetworkEnds networkID t out)
      (resolveNetwork n networkID tags) c h := by
  rw [resolveNetwork, wpc_read_bind]
  refine wpc_seq (ensureResource_ends (k := .network)) ?_
  rintro out c₁ _ ⟨rfl, t, rfl, hlookups, hends⟩
  have hnone := made_none_of_lookups hlookups
  rcases out with err | ⟨network, id⟩
  · exact ⟨rfl, t, rfl, hnone⟩
  · rw [EnsureEnds] at hends
    simp only [after_ok, wpc_ite]
    split
    · next hid =>
      rw [if_neg hid] at hends
      refine ⟨rfl, t, rfl, hends.2.imp_left fun heq => ⟨hid, heq⟩, t, [], by simp, hnone, .inl rfl⟩
    -- nothing found: the network is the one that is created
    · refine wpc_seq (createResource_ends (k := .network)) ?_
      rintro out _ _ ⟨rfl, reply, -, rfl, hcreate⟩
      cases reply with
      | ok network =>
          obtain rfl := hcreate
          refine ⟨rfl, _, List.append_assoc _ _ _,
            .inr ⟨_, List.mem_append_right _ List.mem_cons_self,
            List.mem_singleton.mpr rfl⟩, t, _, rfl, hnone, .inr ⟨_, network, rfl, rfl⟩⟩
      | error err =>
          have hnone' (req : Kind.network.Request) :
            ∀ e ∈ t ++ [(⟨.create .network req, .error err⟩ : CallEvent)],
              madeBy e.op e.reply = none := by
            rintro e he
            rcases List.mem_append.mp he with he | he
            · exact hnone e he
            · exact List.mem_singleton.mp he ▸ rfl
          rcases hcreate with rfl | ⟨e, rfl⟩
          · exact ⟨rfl, _, List.append_assoc _ _ _, rfl, hnone' _⟩
          · exact ⟨rfl, _, List.append_assoc _ _ _, hnone' _⟩

/-- How the subnet half ends: the subnet was found or created, or there is none. -/
def SubnetEnds (t : Trace) : Except GoError (Except Result String) → Prop
  | .ok (.ok id) => (∃ e ∈ t, handsOver .subnet e.op e.reply = true) ∧
      ∀ e ∈ t, Noted madeBy (· = .resource .subnet id) e
  | .ok (.error result) => result.isZero = false ∧
      ∀ e ∈ t, handsOver .subnet e.op e.reply = false ∧ madeBy e.op e.reply = none
  | .error _ => ∀ e ∈ t, handsOver .subnet e.op e.reply = false ∧ madeBy e.op e.reply = none

theorem resolveSubnet_ends (n : NetworkSpec) (subnetID networkID : String) (tags : TagMap) :
    (history fun _ _ => True).wpc (fun out c' h' => c' = c ∧ ∃ t, h' = h ++ t ∧ SubnetEnds t out)
      (resolveSubnet n subnetID networkID tags) c h := by
  rw [resolveSubnet]
  refine wpc_seq (ensureResource_ends (k := .subnet)) ?_
  rintro out c₁ _ ⟨rfl, t, rfl, hlookups, hends⟩
  have hnone := made_none_of_lookups hlookups
  rcases out with err | ⟨subnet, id⟩
  · exact ⟨rfl, t, rfl, fun e he => ⟨hends e he, hnone e he⟩⟩
  · rw [EnsureEnds] at hends
    simp only [after_ok, wpc_ite]
    split
    · next hid =>
      rw [if_neg hid] at hends
      refine ⟨rfl, t, rfl, hends.1, fun e he x hx => ?_⟩
      rw [hnone e he] at hx
      cases hx
    · next hid =>
      -- nothing found: the subnet is the one that is created
      rw [if_pos (not_not.mp hid)] at hends
      refine wpc_seq (createResource_ends (k := .subnet)) ?_
      rintro out _ _ ⟨rfl, reply, -, rfl, hcreate⟩
      cases reply with
      | ok subnet =>
          obtain rfl := hcreate
          refine ⟨rfl, _, List.append_assoc _ _ _,
            ⟨_, List.mem_append_right _ List.mem_cons_self, rfl⟩, fun e he x hx => ?_⟩
          rcases List.mem_append.mp he with he | he
          · rw [hnone e he] at hx
            cases hx
          · obtain rfl := List.mem_singleton.mp he
            cases hx
            rfl
      | error err =>
          have hnone' (req : Kind.subnet.Request) :
            ∀ e ∈ t ++ [(⟨.create .subnet req, .error err⟩ : CallEvent)],
              handsOver .subnet e.op e.reply = false ∧ madeBy e.op e.reply = none := by
            rintro e he
            rcases List.mem_append.mp he with he | he
            · exact ⟨hends e he, hnone e he⟩
            · exact List.mem_singleton.mp he ▸ ⟨rfl, rfl⟩
          rcases hcreate with rfl | ⟨e, rfl⟩
          · exact ⟨rfl, _, List.append_assoc _ _ _, rfl, hnone' _⟩
          · exact ⟨rfl, _, List.append_assoc _ _ _, hnone' _⟩

/-! ## One network -/

/-- What the entry of a network refers to. -/
def NetworkRef (name : String) (c : CloudscaleCluster) (x : Made) : Prop :=
  ∃ ns, c.status.getNetworkStatus name = some ns ∧
    (x = .resource .network ns.networkID ∨ x = .resource .subnet ns.subnetID)

theorem NetworkRef.referenced {name : String} {x : Made} (hx : NetworkRef name c x) :
    Referenced c x := by
  obtain ⟨ns, hns, rfl | rfl⟩ := hx
  · exact ⟨ns, List.mem_of_find?_eq_some hns, rfl⟩
  · exact ⟨ns, List.mem_of_find?_eq_some hns, rfl⟩

/-- Network IDs in status were there at the start, or a reply has mentioned them. -/
def Sourced (c₀ c : CloudscaleCluster) (h : Trace) : Prop :=
  ∀ ns ∈ c.status.networks, Referenced c₀ (.resource .network ns.networkID) ∨
    ∃ e ∈ h, ns.networkID ∈ mentions e.op e.reply

theorem Sourced.later (hc : Sourced c₀ c h) (t : Trace) : Sourced c₀ c (h ++ t) := by
  intro ns hns
  refine (hc ns hns).imp_right ?_
  rintro ⟨e, he, hmem⟩
  exact ⟨e, List.mem_append_left _ he, hmem⟩

theorem Sourced.set {name networkID subnetID cidr : String} {managed : Bool} {mtu : Int}
    (hc : Sourced c₀ c h) (hid : Referenced c₀ (.resource .network networkID) ∨
      ∃ e ∈ h, networkID ∈ mentions e.op e.reply) :
    Sourced c₀ (setNetworkStatus name networkID subnetID cidr managed mtu c) h := by
  intro ns hns
  rcases Keyed.mem_upsertFirst hns with hns | rfl | ⟨ns₀, _, _, rfl⟩
  · exact hc ns hns
  · exact hid
  · exact hid

/-- The pass has ended between a network and its subnet: no call after the create has returned a
subnet, and the IDs in status are older than the network. -/
def Cut (c₀ c : CloudscaleCluster) (h : Trace) : Prop :=
  ∃ pre req network post, h = pre ++ ⟨.create .network req, .ok network⟩ :: post ∧
    (∀ e ∈ post, handsOver .subnet e.op e.reply = false) ∧ Sourced c₀ c pre

/-- The step does not go on. -/
def Stopped : Except GoError Result → Prop
  | .error _ => True
  | .ok result => result.isZero = false

/-- How the network step may end: in the gap, or with everything accounted for. -/
def NetworkStep (c₀ : CloudscaleCluster) (own : CloudscaleCluster → Made → Prop) (h : Trace)
    (out : Except GoError Result) (c : CloudscaleCluster) (h' : Trace) : Prop :=
  (Stopped out ∧ Cut c₀ c h') ∨
    (Sourced c₀ c h' ∧ ∃ t, h' = h ++ t ∧ SubnetsFollow t ∧ ∀ e ∈ t, Noted madeBy (own c) e)

theorem NetworkStep.weaken {own own' : CloudscaleCluster → Made → Prop}
    {out : Except GoError Result} (hstep : NetworkStep c₀ own h out c h')
    (hown : ∀ x, own c x → own' c x) :
    NetworkStep c₀ own' h out c h' :=
  hstep.imp_right fun ⟨hc, t, ht, hfollow, hnoted⟩ =>
    ⟨hc, t, ht, hfollow, fun e he => Noted.mono hown e (hnoted e he)⟩

/-- Events that have made nothing. -/
theorem accounted_of_none (hnone : ∀ e ∈ t, madeBy e.op e.reply = none) (own : Made → Prop) :
    SubnetsFollow t ∧ ∀ e ∈ t, Noted madeBy own e := by
  refine ⟨.of_none fun e he id hmade => ?_, fun e he x hx => ?_⟩
  · rw [hnone e he] at hmade
    cases hmade
  · rw [hnone e he] at hx
    cases hx

theorem networkStep_of_none {own : CloudscaleCluster → Made → Prop} {out : Except GoError Result}
    (hc : Sourced c₀ c (h ++ t)) (hnone : ∀ e ∈ t, madeBy e.op e.reply = none) :
    NetworkStep c₀ own h out c (h ++ t) := .inr ⟨hc, t, rfl, accounted_of_none hnone (own c)⟩

theorem reconcileManagedNetwork_step (cluster : Cluster) (n : NetworkSpec) (hc : Sourced c₀ c h) :
    (history fun _ _ => True).wpc (NetworkStep c₀ (NetworkRef n.name) h)
      (reconcileManagedNetwork cluster n) c h := by
  rw [reconcileManagedNetwork, wpc_read_bind]
  refine wpc_seq (resolveNetwork_ends _ _ _) ?_
  rintro out c₁ _ ⟨rfl, t₁, rfl, hends⟩
  rcases out with err | result | ⟨network, id⟩
  · exact networkStep_of_none (hc.later _) hends
  · exact networkStep_of_none (hc.later _) hends.2
  · obtain ⟨hid, looks, tail, rfl, hlooks, htail⟩ := hends
    rw [after_ok]
    refine wpc_seq (resolveSubnet_ends _ _ _ _) ?_
    rintro out c₂ _ ⟨rfl, t₂, rfl, hsub⟩
    -- without a subnet, all depends on whether the network is new
    have hgap {out : Except GoError Result} (hstop : Stopped out)
        (hsub : ∀ e ∈ t₂, handsOver .subnet e.op e.reply = false ∧ madeBy e.op e.reply = none) :
        NetworkStep c₀ (NetworkRef n.name) h out c₂ (h ++ (looks ++ tail) ++ t₂) := by
      rcases htail with rfl | ⟨req, network, rfl, -⟩
      · rw [List.append_nil, List.append_assoc]
        refine networkStep_of_none (hc.later _) fun e he => ?_
        rcases List.mem_append.mp he with he | he
        · exact hlooks e he
        · exact (hsub e he).2
      · refine .inl ⟨hstop, h ++ looks, req, network, t₂, by simp, fun e he => (hsub e he).1, ?_⟩
        exact hc.later looks
    rcases out with err | result | subnetID
    · exact hgap trivial hsub
    · exact hgap hsub.1 hsub.2
    · obtain ⟨hfound, hsub⟩ := hsub
      obtain ⟨ns, hns, hn, hs, -⟩ := Readiness.getNetworkStatus_set_self n.name id
        subnetID n.cidr true (network.elim 0 (·.mtu)) c₂
      refine .inr ⟨?_, looks ++ tail ++ t₂, List.append_assoc _ _ _, ?_, fun e he x hx =>
        ⟨ns, hns, ?_⟩⟩
      · refine ((hc.later _).later t₂).set ?_
        rcases hid with ⟨hne, rfl⟩ | ⟨e, he, hmem⟩
        · -- the ID that was recorded
          cases hold : c₂.status.getNetworkStatus n.name with
          | none => simp [hold] at hne
          | some old => exact ((hc.later _).later t₂) old (List.mem_of_find?_eq_some hold)
        · exact .inr ⟨e, List.mem_append_left _ (List.mem_append_right _ he), hmem⟩
      · refine .of_found hfound fun e he id hmade => ?_
        cases hsub e he _ hmade
      · rcases List.mem_append.mp he with he | he
        · rcases List.mem_append.mp he with he | he
          · rw [hlooks e he] at hx
            cases hx
          · rcases htail with rfl | ⟨req, network, rfl, rfl⟩
            · cases he
            · obtain rfl := List.mem_singleton.mp he
              cases hx
              exact .inl (congrArg _ hn.symm)
        · exact .inr ((hsub e he x hx).trans (congrArg _ hs.symm))

theorem reconcilePreExistingNetwork_step (n : NetworkSpec) (hc : Sourced c₀ c h) :
    (history fun _ _ => True).wpc (fun _ c' h' => Sourced c₀ c' h' ∧ ∃ t, h' = h ++ t ∧
        ∀ e ∈ t, madeBy e.op e.reply = none) (reconcilePreExistingNetwork n) c h := by
  rw [reconcilePreExistingNetwork, wpc_read_bind, wpc_ite]
  split
  · exact ⟨hc, [], by simp, by simp⟩
  · rw [wpc_bind]
    refine history_perform fun reply _ => ?_
    have hnone : ∀ e ∈ [(⟨.get .network n.uuid, reply⟩ : CallEvent)],
        madeBy e.op e.reply = none := by
      rintro e he
      exact List.mem_singleton.mp he ▸ rfl
    cases reply with
    | error err => exact ⟨hc.later _, _, rfl, hnone⟩
    | ok network =>
        simp only [after_ok, wpc_ite]
        split
        · exact ⟨hc.later _, _, rfl, hnone⟩
        · cases network.subnets with
          | nil => exact ⟨hc.later _, _, rfl, hnone⟩
          | cons subnet rest =>
              refine ⟨(hc.later _).set (.inr ⟨_, List.mem_append_right _ List.mem_cons_self, ?_⟩),
                _, rfl, hnone⟩
              exact List.mem_singleton.mpr rfl

/-! ## The loop -/

/-- A step behind another whose entry it leaves alone. -/
theorem NetworkStep.behind {name : String} {out : Except GoError Result}
    (hstep : NetworkStep c₀ (fun c x => ∃ name, NetworkRef name c x) (h ++ t) out c' h')
    (hfollow : SubnetsFollow t) (hnoted : ∀ e ∈ t, Noted madeBy (NetworkRef name c) e)
    (hentry : c'.status.getNetworkStatus name = c.status.getNetworkStatus name) :
    NetworkStep c₀ (fun c x => ∃ name, NetworkRef name c x) h out c' h' := by
  rcases hstep with hcut | ⟨hc, t', rfl, hfollow', hnoted'⟩
  · exact .inl hcut
  refine .inr ⟨hc, t ++ t', List.append_assoc _ _ _, hfollow.append hfollow', fun e he x hx => ?_⟩
  rcases List.mem_append.mp he with he | he
  · obtain ⟨ns, hns, hx⟩ := hnoted e he x hx
    exact ⟨name, ns, hentry.trans hns, hx⟩
  · exact hnoted' e he x hx

/-- By induction on the networks: a step that stops is the last one, and the entry of the first
network is not touched by the rest. -/
theorem reconcileNetworks_step (cluster : Cluster) (ns : List NetworkSpec)
    (hnames : (ns.map (·.name)).Nodup) : ∀ c h, Sourced c₀ c h → (history fun _ _ => True).wpc
      (NetworkStep c₀ (fun c x => ∃ name, NetworkRef name c x) h)
        (reconcileNetworks cluster ns) c h := by
  induction ns with
  | nil => exact fun c h hc => .inr ⟨hc, [], by simp, .of_none (by simp [NoNetworks]), by simp⟩
  | cons n rest ih =>
      intro c h hc
      obtain ⟨hnew, hrest⟩ := List.nodup_cons.mp hnames
      have hothers : Frame (fun c => c.status.getNetworkStatus n.name) (About .network)
          (reconcileNetworks cluster rest) := by
        refine reconcileNetworks_frame cluster rest fun n' hn' _ _ _ _ _ c => ?_
        refine Readiness.getNetworkStatus_set_of_ne (fun heq => hnew ?_) _ _ _ _ _ c
        exact List.mem_map.mpr ⟨n', hn', heq.symm⟩
      -- how it goes on once the first network is done
      have hnext {c₁ : CloudscaleCluster} {t : Trace} (hc₁ : Sourced c₀ c₁ (h ++ t))
          (hfollow : SubnetsFollow t) (hnoted : ∀ e ∈ t, Noted madeBy (NetworkRef n.name c₁) e) :
          (history fun _ _ => True).wpc (NetworkStep c₀ (fun c x => ∃ name, NetworkRef name c x) h)
            (reconcileNetworks cluster rest) c₁ (h ++ t) := by
        refine wpc_imp (wpc_and (ih hrest c₁ _ hc₁) (hothers.wpc c₁ _)) ?_
        rintro out c' h' ⟨hstep, hentry⟩
        exact hstep.behind hfollow hnoted hentry
      rw [reconcileNetworks, wpc_ite]
      split
      · refine wpc_seq (wpc_wrapped (reconcilePreExistingNetwork_step n hc) fun _ _ _ => id) ?_
        rintro (err | _) c₁ _ ⟨hc₁, t, rfl, hnone⟩
        · rw [after_error]
          exact networkStep_of_none hc₁ hnone
        · obtain ⟨hfollow, hnoted⟩ := accounted_of_none hnone (NetworkRef n.name c₁)
          exact hnext hc₁ hfollow hnoted
      · refine wpc_seq (wpc_wrapped (reconcileManagedNetwork_step cluster n hc) fun _ _ _ => id) ?_
        intro out c₁ h₁ hstep
        have hend : NetworkStep c₀ (fun c x => ∃ name, NetworkRef name c x) h out c₁ h₁ :=
          hstep.weaken fun x hx => ⟨n.name, hx⟩
        cases out with
        | error err => exact hend
        | ok result =>
            rw [after_ok, wpc_ite]
            split
            · next hzero =>
              rcases hstep with ⟨hstop, -⟩ | ⟨hc₁, t, rfl, hfollow, hnoted⟩
              · rw [Stopped, hzero] at hstop
                cases hstop
              · exact hnext hc₁ hfollow hnoted
            · exact hend

/-- The network step of a cluster whose networks have different names. -/
theorem reconcileNetwork_step (cluster : Cluster) (hnames : (c.spec.networks.map (·.name)).Nodup) :
    (history fun _ _ => True).wpc (NetworkStep c Referenced [])
      (reconcileNetwork cluster) c [] := by
  have hc : Sourced c c [] := fun ns hns => .inl ⟨ns, hns, rfl⟩
  have hready (out : Except GoError Result) (c' : CloudscaleCluster) (h' : Trace)
      (hstep : NetworkStep c (fun c x => ∃ name, NetworkRef name c x) [] out c' h') :
      NetworkStep c Referenced [] out (setNetworkReady out c') h' := by
    rcases hstep with ⟨hstop, hcut⟩ | ⟨hsrc, t, ht, hfollow, hnoted⟩
    · refine .inl ⟨hstop, ?_⟩
      cases out <;> exact hcut
    · refine .inr ⟨?_, t, ht, hfollow, fun e he => Noted.mono ?_ e (hnoted e he)⟩
      · cases out <;> exact hsrc
      · rintro x ⟨name, hx⟩
        cases out <;> exact hx.referenced.setCondition _ _ _ _
  rw [reconcileNetwork, wpc_deferred]
  refine wpc_imp ?_ hready
  rw [wpc_read_bind, wpc_ite]
  split
  · rw [wpc_fail]
    exact networkStep_of_none (h := []) (t := []) hc (by simp)
  · exact reconcileNetworks_step cluster c.spec.networks hnames c [] hc

end Capcs.Records
