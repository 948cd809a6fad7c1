import Capcs.Controller.Frames

/-!
# Capcs.Readiness.Calls — the history of a pass

What a pass reports about itself depends on what it has seen, so the world here is
the history of its calls. Replies are arbitrary up to `identified`: the API hands out
no empty identifier.

Two kinds of event matter later on. A create that runs into its deadline ends a pass
early, without an error (`timedOut`); and the status of the load balancer is what the
last `Get` has shown (`seenLB`). All other events are `Plain`.
-/

namespace Capcs.Readiness

open Cloudscale Controller
open Interaction (Program Proc Frame New history history_perform)
open Interaction.Contract

/-- A call with its reply. -/
abbrev CallEvent := Program.Event Op Op.Reply

/-- The calls of a pass with their replies. -/
abbrev Trace := Interaction.History Op Op.Reply

/-- Calls that are answered in any way. -/
abbrev anyCalls : Interaction.Contract Trace Op Op.Reply := history fun _ _ => True

/-! ## Replies -/

/-- No identifier in a resource is empty. -/
def identifiedResource : {k : Kind} → k.Resource → Bool
  | .network, r => r.uuid ≠ "" ∧ ∀ s ∈ r.subnets, s.uuid ≠ ""
  | .router, r => r.uuid ≠ "" ∧ ∀ i ∈ r.interfaces, i.uuid ≠ ""
  | .subnet, r => r.uuid ≠ ""
  | .loadBalancer, r => r.uuid ≠ ""
  | .pool, r => r.uuid ≠ ""
  | .listener, r => r.uuid ≠ ""
  | .healthMonitor, r => r.uuid ≠ ""
  | .floatingIP, r => r.ip ≠ ""
  | .server, r => r.uuid ≠ ""
  | .serverGroup, r => r.uuid ≠ ""

/-- No identifier in a reply is empty. -/
def identified : (op : Op) → op.Reply → Bool
  | .get _ _, .ok r => identifiedResource r
  | .list _ _, .ok rs => rs.all identifiedResource
  | .create _ _, .ok r => identifiedResource r
  | .createInterface _ _, .ok iface => iface.uuid ≠ ""
  | _, _ => true

theorem uuidOf_ne_of_identified {k : Kind} {r : k.Resource} (h : identifiedResource r = true) :
    uuidOf r ≠ "" := by
  cases k <;> simp_all [identifiedResource, uuidOf]

/-- The contract of a pass over the API. -/
abbrev calls : Interaction.Contract Trace Op Op.Reply := history fun op r => identified op r = true

/-! ## Events -/

/-- What a create that ran into its deadline was for; `network` stands for a subnet as
well, and `child` for what belongs to the load balancer. -/
inductive TimedOut where
  | network (tags : TagMap)
  | loadBalancer
  | child
  | member
  | floatingIP
  deriving DecidableEq, Repr

/-- What a create of a kind is for. Routers wait for themselves. -/
def createPurpose : (k : Kind) → k.Request → Option TimedOut
  | .network, req => some (.network req.tags)
  | .subnet, req => some (.network req.tags)
  | .loadBalancer, _ => some .loadBalancer
  | .pool, _ => some .child
  | .listener, _ => some .child
  | .healthMonitor, _ => some .child
  | .floatingIP, _ => some .floatingIP
  | _, _ => none

/-- The event is a create that ran into its deadline. -/
def timedOut : CallEvent → Option TimedOut
  | ⟨.create k req, .error err⟩ => if isTimeoutError err then createPurpose k req else none
  | ⟨.createMember _ _, .error err⟩ => if isTimeoutError err then some .member else none
  | _ => none

/-- The load balancer the event shows. -/
def seenLB : CallEvent → Option LoadBalancer
  | ⟨.get .loadBalancer _, .ok lb⟩ => some lb
  | _ => none

/-- No create ran into its deadline. -/
def InTime (e : CallEvent) : Prop := timedOut e = none

/-- An event that is none of the two. -/
def Plain (e : CallEvent) : Prop := timedOut e = none ∧ seenLB e = none

/-- Only plain events since `h`. -/
abbrev Quiet : Trace → Trace → Prop := New Plain

theorem Quiet.inTime {h h' : Trace} (hq : Quiet h h') : New InTime h h' := hq.mono fun _ he => he.1

/-- Since `h`, nothing but plain events and then a create that ran into its deadline. -/
def Stops (x : TimedOut) (h h' : Trace) : Prop :=
  ∃ h₁ e, Quiet h h₁ ∧ h' = h₁ ++ [e] ∧ timedOut e = some x

theorem Stops.after {x : TimedOut} {h h' h'' : Trace} (hq : Quiet h h') (hs : Stops x h' h'') :
    Stops x h h'' := by
  obtain ⟨h₁, e, hq', rfl, he⟩ := hs
  exact ⟨h₁, e, hq.trans hq', rfl, he⟩

/-- The same after any events in time. -/
def EndsBy (x : TimedOut) (h h' : Trace) : Prop :=
  ∃ h₁ e, New InTime h h₁ ∧ h' = h₁ ++ [e] ∧ timedOut e = some x

theorem Stops.ends {x : TimedOut} {h h' h'' : Trace} (hin : New InTime h h') (hs : Stops x h' h'') :
    EndsBy x h h'' := by
  obtain ⟨h₁, e, hq, rfl, he⟩ := hs
  exact ⟨h₁, e, hin.trans hq.inTime, rfl, he⟩

theorem EndsBy.after {x : TimedOut} {h h' h'' : Trace} (hin : New InTime h h')
    (he : EndsBy x h' h'') :
    EndsBy x h h'' := by
  obtain ⟨h₁, e, hin', rfl, he⟩ := he
  exact ⟨h₁, e, hin.trans hin', rfl, he⟩

/-- The load balancer that was seen last. -/
def lastLB (h : Trace) : Option LoadBalancer := h.reverse.findSome? seenLB

theorem lastLB_snoc (h : Trace) (e : CallEvent) : lastLB (h ++ [e]) = (seenLB e).or (lastLB h) := by
  rw [lastLB, List.reverse_append, List.findSome?_append]
  cases he : seenLB e with
  | none => simp [he, lastLB]
  | some lb => simp [he]

theorem lastLB_quiet {h h' : Trace} (hq : Quiet h h') : lastLB h' = lastLB h := by
  obtain ⟨t, rfl, ht⟩ := hq
  have hnone : t.reverse.findSome? seenLB = none := by
    rw [List.findSome?_eq_none_iff]
    intro e he
    exact (ht e (List.mem_reverse.mp he)).2
  rw [lastLB, List.reverse_append, List.findSome?_append, hnone]
  rfl

theorem seenLB_of_timedOut {e : CallEvent} {x : TimedOut} (he : timedOut e = some x) :
    seenLB e = none := by
  unfold timedOut at he
  split at he
  · rfl
  · rfl
  · cases he

theorem lastLB_stops {x : TimedOut} {h h' : Trace} (hs : Stops x h h') : lastLB h' = lastLB h := by
  obtain ⟨h₁, e, hq, rfl, he⟩ := hs
  rw [lastLB_snoc, seenLB_of_timedOut he, lastLB_quiet hq]
  rfl

/-- A request that goes unnoticed, whatever the reply. -/
def PlainOp : Op → Prop
  | .create _ _ => False
  | .createMember _ _ => False
  | .get k _ => k ≠ .loadBalancer
  | _ => True

theorem plain_of_op {op : Op} {r : op.Reply} (hop : PlainOp op) : Plain ⟨op, r⟩ := by
  cases op with
  | create | createMember => exact hop.elim
  | get k =>
      cases k with
      | loadBalancer => exact absurd rfl hop
      | _ => exact ⟨rfl, rfl⟩
  | _ => exact ⟨rfl, rfl⟩

/-! ## Shared call patterns -/

variable {σ : Type} {s : σ} {h : Trace}

/-- A request that goes unnoticed. -/
theorem quiet_perform {op : Op} {Q : Except GoError op.Reply → σ → Trace → Prop} (hop : PlainOp op)
    (hQ : ∀ r h', identified op r = true → Quiet h h' → Q (.ok r) s h') :
    calls.wpc Q (Proc.perform op) s h :=
  history_perform fun r hr => hQ r _ hr (.snoc (plain_of_op hop) h)

/-- A step that makes no other requests. -/
theorem quiet_of_frame {α β : Type} {f : σ → β} {P : Op → Prop} {m : Proc Op Op.Reply σ GoError α}
    (hm : Frame f P m) (hP : ∀ op, P op → PlainOp op) :
    calls.wpc (fun _ s' h' => f s' = f s ∧ Quiet h h') m s h :=
  wpc_imp (hm.wpc_new s h) fun _ _ _ hend =>
    ⟨hend.1, hend.2.mono fun e he => plain_of_op (hP e.op he)⟩

/-- How `ensureResource` ends: with the resource and its ID, or with neither. -/
def EnsuredInTime (k : Kind) (h : Trace) :
    Except GoError (Option k.Resource × String) → Trace → Prop
  | .error _, h' => New InTime h h' ∧ (k ≠ .loadBalancer → Quiet h h')
  | .ok (some r, id), h' => identifiedResource r = true ∧ id ≠ "" ∧ New InTime h h' ∧
      (k ≠ .loadBalancer → Quiet h h')
  | .ok (none, id), h' => id = "" ∧ Quiet h h'

theorem plain_list {k : Kind} {tags : TagMap} {r : (Op.list k tags).Reply} :
    Plain ⟨.list k tags, r⟩ := plain_of_op trivial

theorem EnsuredInTime.of_read {k : Kind} {tags : TagMap} {r : (Op.list k tags).Reply}
    {out : Except GoError (Option k.Resource × String)} {h' : Trace}
    (hread : ListRead (identified · · = true) k tags r out) (hq : Quiet h h') :
    EnsuredInTime k h out h' := by
  cases hread with
  | failed | many => exact ⟨hq.inTime, fun _ => hq⟩
  | none => exact ⟨rfl, hq⟩
  | one hgood =>
      have hitem := by simpa [identified] using hgood
      exact ⟨hitem, uuidOf_ne_of_identified hitem, hq.inTime, fun _ => hq⟩

theorem ensureResource_spec {k : Kind} {currentID name : String} {tags : TagMap} :
    calls.wpc (fun out s' h' => s' = s ∧ EnsuredInTime k h out h')
      (ensureResource k currentID name tags) s h := by
  have hplain {r : (Op.get k currentID).Reply} (hk : k ≠ .loadBalancer) :
      Quiet h (h ++ [⟨.get k currentID, r⟩]) :=
    .snoc (plain_of_op (show PlainOp (.get k currentID) from hk)) h
  refine wpc_imp ensureResource_looksUp ?_
  rintro out s' _ ⟨rfl, t, rfl, hlooks⟩
  refine ⟨rfl, ?_⟩
  cases hlooks with
  | found hid hgood => exact ⟨by simpa [identified] using hgood, hid, .snoc (by rfl) h, hplain⟩
  | failed => exact ⟨.snoc (by rfl) h, hplain⟩
  | gone _ hread =>
      rw [List.append_cons]
      exact .of_read hread (New.trans (.snoc ⟨rfl, by cases k <;> rfl⟩ h) (.snoc plain_list _))
  | listed _ hread => exact .of_read hread (.snoc plain_list h)

/-- How `createResource` ends: with the resource, or with a requeue on a timeout. -/
def CreatedInTime (k : Kind) (req : k.Request) (requeueAfter : Nat) (h : Trace) :
    Except GoError (Except Result k.Resource) → Trace → Prop
  | .error _, h' => Quiet h h'
  | .ok (.ok r), h' => identifiedResource r = true ∧ Quiet h h'
  | .ok (.error result), h' => result = { requeueAfter } ∧
      match createPurpose k req with
      | none => Quiet h h'
      | some x => Stops x h h'

theorem createResource_spec {k : Kind} {req : k.Request} {what : String} {requeueAfter : Nat} :
    calls.wpc (fun out s' h' => s' = s ∧ CreatedInTime k req requeueAfter h out h')
      (createResource k req what requeueAfter) s h := by
  rw [createResource, wpc_bind]
  refine history_perform ?_
  intro r hr
  cases r with
  | ok resource => exact ⟨rfl, by simpa [identified] using hr, .snoc ⟨rfl, rfl⟩ h⟩
  | error err =>
      simp only [after_ok]
      split
      · next ht =>
        refine ⟨rfl, rfl, ?_⟩
        cases hx : createPurpose k req with
        | none => exact .snoc ⟨by simp [timedOut, hx], rfl⟩ h
        | some x => exact ⟨h, _, .refl _ h, rfl, by simp [timedOut, ht, hx]⟩
      · next ht => exact ⟨rfl, .snoc ⟨by simp [timedOut, ht], rfl⟩ h⟩

end Capcs.Readiness
