import Capcs.Readiness.Progress
import Capcs.Cloudscale.Simulator

/-!
# Capcs.Readiness.Truthful — do the conditions tell the truth?

A pass reports `True` for a sub-condition only if it found what the condition stands
for, with one exception: a create that runs into its deadline makes the pass return
early and without an error, and the deferred function that writes the condition takes
that for success. `truthful_iff` says exactly when such a pass misreports.
-/

namespace Capcs.Readiness

open Cloudscale Controller
open Interaction (Program Proc New history runs_of_wpc)

variable {cluster : Cluster} {c c' c₁ : CloudscaleCluster} {h h' tr tr' : Trace} {t : ConditionType}
  {status : ConditionStatus} {out : Except GoError Result}

/-! ## What the conditions say -/

/-- What a sub-condition claims about the object, after a pass with the calls `tr`. -/
def Fact (tr : Trace) (c : CloudscaleCluster) : ConditionType → Prop
  | .networkReady => ∀ n ∈ c.spec.networks, NetworkRecorded c n.name
  | .routerReady => ∀ r ∈ c.spec.routers, routerProvisioned c r = true
  | .loadBalancerReady => c.spec.controlPlaneLoadBalancer.isEnabled = true →
      SeenRunning tr ∧ c.status.loadBalancerID ≠ "" ∧ c.status.loadBalancerPoolID ≠ "" ∧
        c.status.loadBalancerListenerID ≠ "" ∧ c.status.loadBalancerHealthMonitorID ≠ ""
  | .floatingIPReady => c.spec.floatingIP.isSome = true → c.status.floatingIP ≠ ""
  | _ => True

/-- The conditions a pass has written, and `Ready`, are `True` only with reason. -/
structure Truthful (written : List ConditionType) (tr : Trace) (c : CloudscaleCluster) : Prop where
  written : ∀ t ∈ written, Conditions.IsTrue c.status.conditions t → Fact tr c t
  ready : Conditions.IsTrue c.status.conditions .ready → ∀ t ∈ subConditions, Fact tr c t

/-! ## When a pass is cut short -/

/-- The create that ended the pass by running into its deadline. -/
def cutShortBy (tr : Trace) : Option TimedOut := tr.getLast?.bind timedOut

/-- A pass over `c` is not cut short, or not where it matters. The early return of the
network step is harmless if the networks it has left out were recorded before, and the
conditions of the later steps, if they are all `True`, are so with reason. -/
def CutShortHarmless (cluster : Cluster) (c : CloudscaleCluster) (tr : Trace) : Prop :=
  match cutShortBy tr with
  | none => True
  | some (.network tags) =>
      (∀ done n rest, c.spec.networks = done ++ n :: rest → networkTags cluster n.name = tags →
        ∀ m ∈ n :: rest, NetworkRecorded c m.name) ∧
      ((∀ t ∈ subConditions.tail, Conditions.IsTrue c.status.conditions t) →
        ∀ t ∈ subConditions.tail, Fact tr c t)
  | some .loadBalancer => False
  | some .child => ¬ SeenRunning tr
  | some .member => SeenRunning tr → Conditions.IsTrue c.status.conditions .floatingIPReady →
      Fact tr c .floatingIPReady
  | some .floatingIP => False

theorem cutShortBy_of_inTime (hin : New InTime [] tr) : cutShortBy tr = none := by
  obtain ⟨_, rfl, ht⟩ := hin
  rw [cutShortBy]
  cases hlast : tr.getLast? with
  | none => rfl
  | some e => exact ht e (List.mem_of_getLast? hlast)

theorem cutShortBy_of_ends {x : TimedOut} (hends : EndsBy x [] tr) : cutShortBy tr = some x := by
  obtain ⟨h₁, e, -, rfl, he⟩ := hends
  simp [cutShortBy, he]

/-! ## Ready -/

theorem readyFrom_isTrue (conds : List Condition) (ts : List ConditionType) :
    (readyFrom conds ts).status = .isTrue ↔ ∀ t ∈ ts, Conditions.IsTrue conds t := by
  induction ts with
  | nil => simp [readyFrom]
  | cons t ts ih =>
      rw [readyFrom, List.forall_mem_cons]
      split
      · next ht => exact ih.trans (by simp [ht])
      · next ht => split <;> simp [ht]

theorem fact_setReadyCondition (t : ConditionType) :
    Fact tr (setReadyCondition c) t ↔ Fact tr c t := by
  cases t <;> exact Iff.rfl

/-- `Ready` is `True` exactly if all sub-conditions are. -/
theorem isTrue_ready_iff (c : CloudscaleCluster) :
    Conditions.IsTrue (setReadyCondition c).status.conditions .ready ↔
      ∀ t ∈ subConditions, Conditions.IsTrue c.status.conditions t := by
  have hget := Conditions.get_set_self (readyFrom c.status.conditions subConditions)
    c.status.conditions
  rw [readyFrom_type] at hget
  rw [← readyFrom_isTrue, Conditions.IsTrue, setReadyCondition, hget]
  simp

theorem isTrue_setReadyCondition (ht : t ≠ .ready) (c : CloudscaleCluster) :
    Conditions.IsTrue (setReadyCondition c).status.conditions t ↔
      Conditions.IsTrue c.status.conditions t := by
  have hne : t ≠ (readyFrom c.status.conditions subConditions).type := by rwa [readyFrom_type]
  rw [Conditions.IsTrue, setReadyCondition, Conditions.get_set_of_ne hne]
  exact Iff.rfl

/-- The same before `Ready` is computed: what it will be is up to the sub-conditions. -/
structure Warranted (written : List ConditionType) (tr : Trace) (c : CloudscaleCluster) : Prop where
  written : ∀ t ∈ written, Conditions.IsTrue c.status.conditions t → Fact tr c t
  ready : (∀ t ∈ subConditions, Conditions.IsTrue c.status.conditions t) →
    ∀ t ∈ subConditions, Fact tr c t

theorem truthful_setReadyCondition {written : List ConditionType} (hready : .ready ∉ written) :
    Truthful written tr (setReadyCondition c) ↔ Warranted written tr c := by
  have hiff : ∀ t ∈ written, Conditions.IsTrue (setReadyCondition c).status.conditions t ↔
      Conditions.IsTrue c.status.conditions t := by
    intro t ht
    exact isTrue_setReadyCondition (fun heq => hready (heq ▸ ht)) c
  constructor
  · rintro ⟨hwritten, hall⟩
    constructor
    · intro t ht hcond
      exact (fact_setReadyCondition t).mp (hwritten t ht ((hiff t ht).mpr hcond))
    · intro hcond t ht
      exact (fact_setReadyCondition t).mp (hall ((isTrue_ready_iff c).mpr hcond) t ht)
  · rintro ⟨hwritten, hall⟩
    constructor
    · intro t ht hcond
      exact (fact_setReadyCondition t).mpr (hwritten t ht ((hiff t ht).mp hcond))
    · intro hcond t ht
      exact (fact_setReadyCondition t).mpr (hall ((isTrue_ready_iff c).mp hcond) t ht)

/-! ## One step -/

theorem fact_of_ne (ht : t ≠ .loadBalancerReady) : Fact tr c t ↔ Done c t := by
  cases t with
  | loadBalancerReady => exact absurd rfl ht
  | _ => exact Iff.rfl

theorem fact_loadBalancer : Fact tr c .loadBalancerReady ↔
    Done c .loadBalancerReady ∧
      (c.spec.controlPlaneLoadBalancer.isEnabled = true → SeenRunning tr) := by
  constructor
  · intro hfact
    exact ⟨fun hen => (hfact hen).2, fun hen => (hfact hen).1⟩
  · rintro ⟨hdone, hrun⟩ hen
    exact ⟨hrun hen, hdone hen⟩

/-- What the steps so far have written is backed. -/
theorem Passed.fact {ts : List ConditionType} (hp : Passed ts c h c' h') (ht : t ∈ ts)
    (hcond : Conditions.IsTrue c'.status.conditions t) : Fact h' c' t := by
  by_cases hlb : t = .loadBalancerReady
  · subst hlb
    refine fact_loadBalancer.mpr ⟨hp.done _ ht, fun hen => hp.running ht ?_ hcond⟩
    exact hp.spec ▸ hen
  · exact (fact_of_ne hlb).mpr (hp.done t ht)

/-- A step that reports `False` does no harm to what was written before it. -/
theorem backed_of_false (ts : List ConditionType) (ht : t ∈ subConditions)
    (hfalse : ¬ Conditions.IsTrue c.status.conditions t)
    (hts : ∀ s ∈ ts, Conditions.IsTrue c.status.conditions s → Fact tr c s) :
    Warranted (ts ++ [t]) tr c := by
  constructor
  · intro s hs hcond
    rcases List.mem_append.mp hs with hs | hs
    · exact hts s hs hcond
    · exact absurd (List.mem_singleton.mp hs ▸ hcond) hfalse
  · exact fun hall => absurd (hall t ht) hfalse

theorem cutShortHarmless_of_inTime (hin : New InTime [] tr) : CutShortHarmless cluster c tr := by
  rw [CutShortHarmless, cutShortBy_of_inTime hin]
  trivial

theorem networkTags_injective {n m : String}
    (htags : networkTags cluster n = networkTags cluster m) :
    n = m := by
  simpa [networkTags] using htags

/-- With distinct keys a list is split at an entry in one way. -/
theorem suffix_eq_of_key {α β : Type} {key : α → β} {x y : α} {a a' b b' : List α}
    (hnodup : ((a ++ x :: b).map key).Nodup) (heq : a ++ x :: b = a' ++ y :: b')
    (hkey : key x = key y) : x :: b = y :: b' := by
  induction a generalizing a' with
  | nil =>
      cases a' with
      | nil => exact heq
      | cons z a' =>
          obtain ⟨rfl, rfl⟩ := List.cons.inj heq
          simp [hkey] at hnodup
  | cons w a ih =>
      cases a' with
      | nil =>
          obtain ⟨rfl, rfl⟩ := List.cons.inj heq
          simp [hkey] at hnodup
      | cons z a' =>
          obtain ⟨-, heq⟩ := List.cons.inj heq
          exact ih (List.nodup_cons.mp hnodup).2 heq

/-- A network step that was cut short: what is recorded of the networks it has left out
was recorded before. -/
theorem networksCut_backed (hgrow : NetworksGrow c c₁)
    (hcut : NetworksCut cluster c.spec.networks c [] c₁ tr)
    (hnames : (c.spec.networks.map (·.name)).Nodup) :
    Warranted [.networkReady] tr (setCondition .networkReady .isTrue .networkProvisioned "" c₁) ↔
      CutShortHarmless cluster c tr := by
  obtain ⟨done, n, rest, hsplit, hdone, hsame, hstop⟩ := hcut
  rw [hsplit] at hnames
  have hspec : c₁.spec = c.spec := by rw [hgrow.frame]
  -- behind the cut nothing is written
  have hleft : ∀ m ∈ n :: rest, NetworkRecorded c₁ m.name → NetworkRecorded c m.name := by
    rintro m hm ⟨ns, hns, hids⟩
    refine ⟨ns, ?_, hids⟩
    rw [← hsame m.name, hns]
    intro d hd heq
    rw [List.map_append] at hnames
    exact (List.nodup_append.mp hnames).2.2 _ (List.mem_map_of_mem hd) _
      (List.mem_map_of_mem hm) heq
  -- and of the conditions only `NetworkReady`
  have hcond : ∀ t ∈ subConditions.tail, (Conditions.IsTrue
      (setCondition .networkReady .isTrue .networkProvisioned "" c₁).status.conditions t ↔
        Conditions.IsTrue c.status.conditions t) := by
    intro t ht
    rw [isTrue_other (by rintro rfl; simp [subConditions] at ht), hgrow.frame]
  have hfact : ∀ t ∈ subConditions.tail, (Fact tr
      (setCondition .networkReady .isTrue .networkProvisioned "" c₁) t ↔ Fact tr c t) := by
    intro t ht
    rw [hgrow.frame]
    cases t with
    | networkReady => simp [subConditions] at ht
    | _ => exact Iff.rfl
  rw [CutShortHarmless, cutShortBy_of_ends (hstop.ends (.refl _ []))]
  constructor
  · rintro ⟨hwritten, hready⟩
    have hnet := hwritten .networkReady (by simp) (isTrue_self.mpr rfl)
    constructor
    · intro done' n' rest' hsplit' htags m hm
      rw [← suffix_eq_of_key hnames (hsplit.symm.trans hsplit')
        (networkTags_injective htags).symm] at hm
      refine hleft m hm (hnet m ?_)
      show m ∈ c₁.spec.networks
      rw [hspec, hsplit]
      exact List.mem_append_right _ hm
    · intro hall t ht
      refine (hfact t ht).mp (hready ?_ t (List.mem_of_mem_tail ht))
      exact List.forall_mem_cons.mpr ⟨isTrue_self.mpr rfl, fun s hs => (hcond s hs).mpr (hall s hs)⟩
  · rintro ⟨hrec, htail⟩
    have hnet : Fact tr (setCondition .networkReady .isTrue .networkProvisioned "" c₁)
        .networkReady := by
      intro m hm
      have hm : m ∈ c₁.spec.networks := hm
      rw [hspec, hsplit] at hm
      rcases List.mem_append.mp hm with hm | hm
      · exact hdone m hm
      · exact hgrow.recorded _ (hrec done n rest hsplit rfl m hm)
    constructor
    · intro t ht _
      exact List.mem_singleton.mp ht ▸ hnet
    · intro hall
      refine List.forall_mem_cons.mpr ⟨hnet, ?_⟩
      intro t ht
      refine (hfact t ht).mpr (htail ?_ t ht)
      exact fun s hs => (hcond s hs).mp (hall s (List.mem_of_mem_tail hs))

/-- The network step, if the pass ends with it. -/
theorem network_backed (hrun : ((reconcileNetwork cluster).exec c).Runs tr (out, c'))
    (hgood : ∀ e ∈ tr, identified e.op e.reply = true) (hlast : goesOn out = false)
    (hnames : (c.spec.networks.map (·.name)).Nodup) :
    Warranted [.networkReady] tr c' ↔ CutShortHarmless cluster c tr := by
  obtain ⟨c₁, rfl, ⟨hgrow, hout⟩, -⟩ := runs_of_wpc (h := [])
    (reconcileNetwork_spec cluster) hrun hgood
  cases out with
  | error err =>
      have hfalse : ¬ Conditions.IsTrue (setNetworkReady (.error err) c₁).status.conditions
          .networkReady := by
        rw [setNetworkReady, isTrue_self]
        simp
      exact iff_of_true (backed_of_false [] (by simp [subConditions]) hfalse (by simp))
        (cutShortHarmless_of_inTime (Quiet.inTime hout))
  | ok result =>
      rcases hout with ⟨hz, -⟩ | ⟨-, hcut⟩
      · exact absurd (hz.symm.trans hlast) (by simp)
      · exact networksCut_backed hgrow hcut hnames

/-- The router step, if the pass ends with it: it reports `False`. -/
theorem routers_backed (cluster : Cluster) (hp : Passed [.networkReady] c [] c₁ h)
    (hrun : ((reconcileRouters cluster).exec c₁).Runs tr (out, c'))
    (hgood : ∀ e ∈ h ++ tr, identified e.op e.reply = true) (hlast : goesOn out = false) :
    Warranted [.networkReady, .routerReady] (h ++ tr) c' ∧
      CutShortHarmless cluster c (h ++ tr) := by
  obtain ⟨c₂, rfl, honly, hq, -⟩ := runs_of_wpc (reconcileRouters_spec cluster) hrun hgood
  obtain ⟨reason, message, hset⟩ : ∃ reason message,
      setRouterReady out c₂ = setCondition .routerReady .isFalse reason message c₂ := by
    cases out with
    | error err => exact ⟨_, _, rfl⟩
    | ok result =>
        have hlast : result.isZero = false := hlast
        refine ⟨.routerNotReady, "Waiting for routers to become available", ?_⟩
        simp [setRouterReady, hlast]
  rw [hset]
  refine ⟨backed_of_false [.networkReady] (by simp [subConditions]) ?_ ?_,
    cutShortHarmless_of_inTime (hp.inTime.trans (Quiet.inTime hq))⟩
  · rw [isTrue_self]
    simp
  · intro t ht _
    rw [List.mem_singleton.mp ht, fact_of_ne (by simp), done_setCondition,
      honly.otherDone (by simp)]
    exact hp.done .networkReady (by simp)

section LoadBalancer

variable {c₂ : CloudscaleCluster} {reason : Reason} {message : String}

/-- The conditions written when the load balancer step has ended. -/
def upToLoadBalancer : List ConditionType := [.networkReady, .routerReady, .loadBalancerReady]

theorem earlier_fact (hp : Passed [.networkReady, .routerReady] c [] c₁ h) (honly : LbOnly c₁ c₂)
    (ht : t ∈ [.networkReady, .routerReady]) :
    Fact h' (setCondition .loadBalancerReady status reason message c₂) t := by
  have hlb : t ≠ .loadBalancerReady := by
    rintro rfl
    simp at ht
  rw [fact_of_ne hlb, done_setCondition, honly.otherDone hlb]
  exact hp.done t ht

theorem loadBalancerFalse_backed (hp : Passed [.networkReady, .routerReady] c [] c₁ h)
    (honly : LbOnly c₁ c₂) (hstatus : status ≠ .isTrue) :
    Warranted upToLoadBalancer h' (setCondition .loadBalancerReady status reason message c₂) := by
  refine backed_of_false [.networkReady, .routerReady] (by simp [subConditions]) ?_
    fun t ht _ => earlier_fact hp honly ht
  rwa [isTrue_self]

/-- Reporting the load balancer ready is right if it is, and if what the last step has
reported earlier still holds. -/
theorem loadBalancerTrue_backed (hp : Passed [.networkReady, .routerReady] c [] c₁ h)
    (honly : LbOnly c₁ c₂) :
    Warranted upToLoadBalancer h' (setCondition .loadBalancerReady .isTrue reason message c₂) ↔
      Fact h' c₂ .loadBalancerReady ∧
      (Conditions.IsTrue c.status.conditions .floatingIPReady → Fact h' c .floatingIPReady) := by
  have hlb : Fact h' (setCondition .loadBalancerReady .isTrue reason message c₂)
      .loadBalancerReady ↔ Fact h' c₂ .loadBalancerReady := Iff.rfl
  -- the floating IP is as before, what is done and its condition
  have hfip : Fact h' (setCondition .loadBalancerReady .isTrue reason message c₂) .floatingIPReady ↔
      Fact h' c .floatingIPReady := by
    rw [fact_of_ne (by simp), fact_of_ne (by simp), done_setCondition, honly.otherDone (by simp),
      hp.otherDone _ (by simp)]
  have hfipTrue : Conditions.IsTrue
      (setCondition .loadBalancerReady .isTrue reason message c₂).status.conditions
        .floatingIPReady ↔ Conditions.IsTrue c.status.conditions .floatingIPReady := by
    rw [isTrue_other (by simp), ← hp.otherTrue _ (by simp), honly]
  have hearlierTrue : ∀ t ∈ [ConditionType.networkReady, .routerReady], Conditions.IsTrue
      (setCondition .loadBalancerReady .isTrue reason message c₂).status.conditions t := by
    intro t ht
    have hlb : t ≠ .loadBalancerReady := by
      rintro rfl
      simp at ht
    rw [isTrue_other hlb, honly]
    exact hp.isTrue t ht hlb
  constructor
  · rintro ⟨hwritten, hready⟩
    refine ⟨hwritten .loadBalancerReady (by simp [upToLoadBalancer]) (isTrue_self.mpr rfl), ?_⟩
    intro hcond
    refine hfip.mp (hready ?_ .floatingIPReady (by simp [subConditions]))
    simp only [subConditions, List.forall_mem_cons]
    exact ⟨hearlierTrue _ (by simp), hearlierTrue _ (by simp), isTrue_self.mpr rfl,
      hfipTrue.mpr hcond, by simp⟩
  · rintro ⟨hlbFact, hfipFact⟩
    have hfacts : ∀ t ∈ upToLoadBalancer,
        Fact h' (setCondition .loadBalancerReady .isTrue reason message c₂) t := by
      simp only [upToLoadBalancer, List.forall_mem_cons]
      exact ⟨earlier_fact hp honly (by simp), earlier_fact hp honly (by simp), hlbFact, by simp⟩
    refine ⟨fun t ht _ => hfacts t ht, ?_⟩
    intro hall t ht
    rcases List.mem_append.mp (show t ∈ upToLoadBalancer ++ [.floatingIPReady] from ht) with ht | ht
    · exact hfacts t ht
    · rw [List.mem_singleton.mp ht]
      exact hfip.mpr (hfipFact (hfipTrue.mp (hall _ (by simp [subConditions]))))

/-- The load balancer step, if the pass ends with it and without an error. -/
theorem lbEnds_backed {o : LbOutcome} (hp : Passed [.networkReady, .routerReady] c [] c₁ h)
    (honly : LbOnly c₁ c₂) (hen : c₂.spec.controlPlaneLoadBalancer.isEnabled = true)
    (hends : LbEnds h c₂ h' o) (hwait : o.result.isZero = false) :
    Warranted upToLoadBalancer h' (setLoadBalancerReady (.ok o) c₂) ↔
      CutShortHarmless cluster c h' := by
  obtain ⟨status, reason, message, hstatus, hset⟩ := setLoadBalancerReady_ok o c₂
  rw [hset]
  by_cases hpending : o.pending = none
  · -- it is reported ready
    rw [hstatus.mpr hpending, loadBalancerTrue_backed hp honly, fact_loadBalancer,
      done_loadBalancer_iff hen]
    cases hends with
    | complete hzero => exact absurd (hzero.symm.trans hwait) (by simp)
    | waiting _ hnot => exact absurd hpending hnot
    | timedOut _ _ hempty hends =>
        rw [CutShortHarmless, cutShortBy_of_ends (hends.after hp.inTime)]
        exact iff_of_false (fun hb => hb.1.1.1 hempty) id
    | @childTimedOut lb _ hseen hiff hmissing hends =>
        rw [CutShortHarmless, cutShortBy_of_ends (hends.after hp.inTime)]
        exact iff_of_false (fun hb => hmissing hb.1.1.2)
          (not_not.mpr ⟨lb, hseen, hiff.mp hpending⟩)
    | @memberTimedOut lb _ hseen hiff hrec hends =>
        have hrunning : SeenRunning h' := ⟨lb, hseen, hiff.mp hpending⟩
        rw [CutShortHarmless, cutShortBy_of_ends (hends.after hp.inTime)]
        constructor
        · exact fun hb _ => hb.2
        · exact fun hb => ⟨⟨hrec, fun _ => hrunning⟩, hb hrunning⟩
  · -- it is not, and an early return cannot hide anything
    refine iff_of_true (loadBalancerFalse_backed hp honly (mt hstatus.mp hpending)) ?_
    cases hends with
    | complete hzero => exact absurd (hzero.symm.trans hwait) (by simp)
    | waiting _ _ hin => exact cutShortHarmless_of_inTime (hp.inTime.trans hin)
    | timedOut _ hnone => exact absurd hnone hpending
    | childTimedOut _ hseen hiff _ hends =>
        rw [CutShortHarmless, cutShortBy_of_ends (hends.after hp.inTime)]
        rintro ⟨lb', hlb', hrunning⟩
        obtain rfl := Option.some.inj (hseen.symm.trans hlb')
        exact hpending (hiff.mpr hrunning)
    | memberTimedOut _ hseen hiff _ hends =>
        rw [CutShortHarmless, cutShortBy_of_ends (hends.after hp.inTime)]
        rintro ⟨lb', hlb', hrunning⟩
        obtain rfl := Option.some.inj (hseen.symm.trans hlb')
        exact absurd (hiff.mpr hrunning) hpending

/-- The load balancer step, if the pass ends with it. -/
theorem loadBalancer_backed {out : Except GoError (LbStatus × Result)}
    (hp : Passed [.networkReady, .routerReady] c [] c₁ h)
    (hrun : ((reconcileLoadBalancer cluster).exec c₁).Runs tr (out, c'))
    (hgood : ∀ e ∈ h ++ tr, identified e.op e.reply = true)
    (hlast : goesOn (out.map (·.2)) = false) :
    Warranted upToLoadBalancer (h ++ tr) c' ↔ CutShortHarmless cluster c (h ++ tr) := by
  have hend := runs_of_wpc (reconcileLoadBalancer_spec cluster) hrun hgood
  split at hend
  case isFalse =>
    -- a disabled load balancer stops no pass
    rw [hend.1] at hlast
    cases hlast
  next hen =>
    obtain ⟨c₂, body, rfl, honly, rfl, hbody⟩ := hend
    cases body with
    | error err =>
        exact iff_of_true (loadBalancerFalse_backed hp honly (by simp))
          (cutShortHarmless_of_inTime (hp.inTime.trans hbody))
    | ok o =>
        have hspec : c₂.spec = c₁.spec := by rw [honly]
        exact lbEnds_backed hp honly (hspec ▸ hen) hbody hlast

end LoadBalancer

/-- The floating IP step touches nothing the other conditions are about. -/
theorem fact_setFloatingIP {reason : Reason} {message ip : String} (hseen : lastLB h' = lastLB h)
    (ht : t ≠ .floatingIPReady) (hfact : Fact h c t) :
    Fact h' (setCondition .floatingIPReady status reason message (setFloatingIP ip c)) t := by
  cases t with
  | floatingIPReady => exact absurd rfl ht
  | loadBalancerReady =>
      intro hen
      obtain ⟨⟨lb, hlb, hrunning⟩, hids⟩ := hfact hen
      exact ⟨⟨lb, hseen.trans hlb, hrunning⟩, hids⟩
  | _ => exact hfact

/-- The floating IP step, if the pass ends with it. -/
theorem floatingIP_backed (hp : Passed upToLoadBalancer c [] c₁ h)
    (hrun : ((reconcileFloatingIP cluster).exec c₁).Runs tr (out, c'))
    (hgood : ∀ e ∈ h ++ tr, identified e.op e.reply = true) (hlast : goesOn out = false) :
    Warranted subConditions (h ++ tr) c' ↔ CutShortHarmless cluster c (h ++ tr) := by
  have hend := runs_of_wpc (reconcileFloatingIP_spec cluster) hrun hgood
  split at hend
  case isFalse =>
    -- without a floating IP there is nothing to stop for
    rw [hend.1] at hlast
    cases hlast
  next hsome =>
    obtain ⟨c₂, rfl, ip, rfl, hout⟩ := hend
    cases out with
    | error err =>
        refine iff_of_true (backed_of_false upToLoadBalancer (by simp [subConditions]) ?_ ?_)
          (cutShortHarmless_of_inTime (hp.inTime.trans (Quiet.inTime hout)))
        · rw [setFloatingIPReady, isTrue_self]
          simp
        · intro t ht hcond
          have hfip : t ≠ .floatingIPReady := by
            rintro rfl
            simp [upToLoadBalancer] at ht
          rw [setFloatingIPReady, isTrue_other hfip] at hcond
          exact fact_setFloatingIP (lastLB_quiet hout) hfip (hp.fact ht hcond)
    | ok result =>
        rcases hout with ⟨hz, -⟩ | ⟨-, rfl, hstop⟩
        · exact absurd (hz.symm.trans hlast) (by simp)
        rw [CutShortHarmless, cutShortBy_of_ends (hstop.ends hp.inTime)]
        refine iff_of_false ?_ id
        rintro ⟨hwritten, -⟩
        exact hwritten .floatingIPReady (by simp [subConditions]) (isTrue_self.mpr rfl) hsome rfl

/-! ## The pass -/

/-- The end of a pass touches nothing the conditions are about. -/
theorem fact_finish {ip : String} :
    Fact tr (setProvisioned (reconcileControlPlaneEndpoint ip c)) t ↔ Fact tr c t := by
  rw [reconcileControlPlaneEndpoint]
  split
  · cases t <;> exact Iff.rfl
  · split <;> cases t <;> exact Iff.rfl

theorem conditions_finish (ip : String) (c : CloudscaleCluster) :
    (setProvisioned (reconcileControlPlaneEndpoint ip c)).status.conditions =
      c.status.conditions := by
  rw [reconcileControlPlaneEndpoint]
  split
  · rfl
  · split <;> rfl

/-- A pass that comes to its end tells the truth. -/
theorem finished_backed {lb : LbStatus} (hp : Passed subConditions c [] c₁ tr) :
    Warranted subConditions tr
      (setProvisioned (reconcileControlPlaneEndpoint lb.ipAddress c₁)) := by
  have hfact : ∀ t ∈ subConditions, Conditions.IsTrue c₁.status.conditions t →
      Fact tr (setProvisioned (reconcileControlPlaneEndpoint lb.ipAddress c₁)) t :=
    fun t ht hcond => fact_finish.mpr (hp.fact ht hcond)
  constructor
  · intro t ht hcond
    rw [conditions_finish] at hcond
    exact hfact t ht hcond
  · intro hall t ht
    rw [conditions_finish] at hall
    exact hfact t ht (hall t ht)

/-- `PassRun` covers every normal pass, and whatever conditions it has written are
truthful exactly if the pass was not cut short where it matters. The identifiers the
API hands out are not empty, and the names of the networks are distinct, as the schema
has it. -/
theorem truthful_iff (cluster : Cluster) (c c' : CloudscaleCluster) (tr : Trace)
    (hgood : ∀ e ∈ tr, identified e.op e.reply = true)
    (hnames : (c.spec.networks.map (·.name)).Nodup) :
    ((∃ out, ((reconcileNormal cluster).exec c).Runs tr (out, c')) ↔
      ∃ written, PassRun cluster c tr written c') ∧
    ∀ written, PassRun cluster c tr written c' →
      (Truthful written tr c' ↔ CutShortHarmless cluster c tr) := by
  refine ⟨⟨fun ⟨_, hrun⟩ => passRun_of_runs hrun, fun ⟨_, hpass⟩ => runs_of_passRun hpass⟩, ?_⟩
  intro written hpass
  -- what earlier steps wrote holds; the step that ends the pass decides
  cases hpass with
  | network hrun hlast =>
      rw [truthful_setReadyCondition (by simp)]
      exact network_backed hrun hgood hlast hnames
  | routers hbefore hrun hlast =>
      obtain ⟨-, hp⟩ := hbefore.passed fun e he => hgood e (List.mem_append_left _ he)
      obtain ⟨hbacked, hharmless⟩ := routers_backed cluster hp hrun hgood hlast
      rw [truthful_setReadyCondition (by simp)]
      exact iff_of_true hbacked hharmless
  | loadBalancer hbefore hrun hlast =>
      obtain ⟨-, hp⟩ := hbefore.passed fun e he => hgood e (List.mem_append_left _ he)
      rw [truthful_setReadyCondition (by simp)]
      exact loadBalancer_backed hp hrun hgood hlast
  | floatingIP hbefore hrun hlast =>
      obtain ⟨-, hp⟩ := hbefore.passed fun e he => hgood e (List.mem_append_left _ he)
      rw [truthful_setReadyCondition (by simp [subConditions])]
      exact floatingIP_backed hp hrun hgood hlast
  | finished hbefore =>
      obtain ⟨-, hp⟩ := hbefore.passed hgood
      rw [truthful_setReadyCondition (by simp [subConditions])]
      exact iff_of_true (finished_backed hp) (cutShortHarmless_of_inTime hp.inTime)

/-! ## A create that times out -/

/-- A cluster with one network, whose later steps have been reported ready before. -/
def reported (networks : List NetworkStatus) (conditions : List Condition) : CloudscaleCluster where
  metadata := { name := "c", ns := "default" }
  spec := { networks := [{ name := "net", cidr := "10.0.0.0/24" }] }
  status := { networks, conditions }

/-- The network step on it while every create times out. -/
def cutNetworks (c : CloudscaleCluster) : Trace × Except GoError Result × CloudscaleCluster :=
  ((reconcileNetwork { name := "c", ns := "default" }).exec c).record emptyReply

theorem identified_emptyReply
    {p : Program Op Op.Reply (Except GoError Result × CloudscaleCluster)} :
    ∀ e ∈ (p.record emptyReply).1, identified e.op e.reply = true := by
  intro e he
  rw [Program.reply_of_mem_record he]
  cases e.op <;> rfl

theorem cutNetworks_passRun (c : CloudscaleCluster) (hlast : goesOn (cutNetworks c).2.1 = false) :
    PassRun { name := "c", ns := "default" } c (cutNetworks c).1 [.networkReady]
      (setReadyCondition (cutNetworks c).2.2) :=
  .network (Program.runs_record emptyReply _) hlast

/-- The entry of a network that was provisioned before. -/
def provisionedNetwork : NetworkStatus where
  name := "net"
  networkID := "n"
  subnetID := "s"
  managed := true

/-- The network is gone and creating it again times out: what was recorded is still
there, so the pass does no harm. -/
theorem truthful_iff_recreated :
    Truthful [.networkReady] (cutNetworks (reported [provisionedNetwork] [])).1
      (setReadyCondition (cutNetworks (reported [provisionedNetwork] [])).2.2) := by
  have hcut : cutShortBy (cutNetworks (reported [provisionedNetwork] [])).1 =
      some (.network (networkTags { name := "c", ns := "default" } "net")) := by decide +kernel
  have hharmless : CutShortHarmless { name := "c", ns := "default" }
      (reported [provisionedNetwork] []) (cutNetworks (reported [provisionedNetwork] [])).1 := by
    rw [CutShortHarmless, hcut]
    constructor
    · intro done n rest hsplit _ m hm
      have hmem : m ∈ (reported [provisionedNetwork] []).spec.networks := by
        rw [hsplit]
        exact List.mem_append_right _ hm
      rw [List.mem_singleton.mp hmem]
      exact ⟨provisionedNetwork, rfl, by decide, by decide⟩
    · exact fun hall => absurd (hall .routerReady (by decide)) (by decide)
  exact ((truthful_iff _ _ _ _ identified_emptyReply (by decide)).2 _
    (cutNetworks_passRun _ (by decide +kernel))).mpr hharmless

/-- The conditions of a cluster that was ready before. -/
def allReady : List Condition :=
  [{ type := .routerReady, status := .isTrue, reason := .routerDisabled },
   { type := .loadBalancerReady, status := .isTrue, reason := .loadBalancerRunning },
   { type := .floatingIPReady, status := .isTrue, reason := .floatingIPDisabled }]

/-- Creating the only network times out: nothing is recorded, and still the pass
reports the network, and with it the cluster, as ready. -/
theorem networkReady_misreported :
    (∃ out, ((reconcileNormal { name := "c", ns := "default" }).exec (reported [] allReady)).Runs
      (cutNetworks (reported [] allReady)).1
      (out, setReadyCondition (cutNetworks (reported [] allReady)).2.2)) ∧
    (∀ e ∈ (cutNetworks (reported [] allReady)).1, identified e.op e.reply = true) ∧
    PassRun { name := "c", ns := "default" } (reported [] allReady)
      (cutNetworks (reported [] allReady)).1 [.networkReady]
      (setReadyCondition (cutNetworks (reported [] allReady)).2.2) ∧
    Conditions.IsTrue (setReadyCondition (cutNetworks (reported [] allReady)).2.2).status.conditions
      .networkReady ∧
    Conditions.IsTrue (setReadyCondition (cutNetworks (reported [] allReady)).2.2).status.conditions
      .ready ∧
    (setReadyCondition (cutNetworks (reported [] allReady)).2.2).status.networks = [] ∧
    ¬ Truthful [.networkReady] (cutNetworks (reported [] allReady)).1
      (setReadyCondition (cutNetworks (reported [] allReady)).2.2) := by
  have hpass := cutNetworks_passRun (reported [] allReady) (by decide +kernel)
  have htrue : Conditions.IsTrue
      (setReadyCondition (cutNetworks (reported [] allReady)).2.2).status.conditions
        .networkReady := by
    decide +kernel
  have hempty :
      (setReadyCondition (cutNetworks (reported [] allReady)).2.2).status.networks = [] := by
    decide +kernel
  have hspec : (setReadyCondition (cutNetworks (reported [] allReady)).2.2).spec =
      (reported [] allReady).spec := by
    decide +kernel
  refine ⟨runs_of_passRun hpass, identified_emptyReply, hpass, htrue, by decide +kernel, hempty, ?_⟩
  -- the condition is true, and the one network of the spec has no entry
  rintro ⟨hwritten, -⟩
  obtain ⟨ns, hns, -⟩ := hwritten .networkReady (by simp) htrue
    { name := "net", cidr := "10.0.0.0/24" } (by rw [hspec]; simp [reported])
  rw [CloudscaleClusterStatus.getNetworkStatus, hempty] at hns
  cases hns

end Capcs.Readiness
