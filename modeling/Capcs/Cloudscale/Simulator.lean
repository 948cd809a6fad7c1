import Capcs.Cloudscale.World
import Capcs.Interaction.Program

/-!
# Capcs.Cloudscale.Simulator — a cloud that can be run

`simulate` answers every call the way `Answers` allows, so that passes can be
executed on concrete clusters. Everything is up and running at once, and the only
faults are those it is told to make in creates.
-/

namespace Capcs.Cloudscale

open Interaction (Program)

variable {ι : Type}

/-- How a create goes wrong: without or with having taken effect. -/
inductive Fault where
  | fails (e : ApiError)
  | lost (e : ApiError)
  deriving DecidableEq, Repr

/-- What is not decided by the calls. -/
structure Scenario where
  fault : Kind → Option Fault := fun _ => none
  machines : List CloudscaleMachine := []
  secret : List (String × String) := [("value", "")]
  vip : String := "192.0.2.1"

/-- A resource with an identity. -/
def Scenario.resource (S : Scenario) : (k : Kind) → Ident → k.Resource
  | .network, i => { uuid := i.uuid, tags := i.tags }
  | .subnet, i => { uuid := i.uuid, tags := i.tags, network := i.parent }
  | .router, i => { uuid := i.uuid, tags := i.tags, status := routerActive }
  | .loadBalancer, i =>
    { uuid := i.uuid, tags := i.tags, status := "running", vipAddresses := [S.vip] }
  | .pool, i => { uuid := i.uuid, tags := i.tags, loadBalancer := i.parent }
  | .listener, i => { uuid := i.uuid, tags := i.tags, pool := i.parent }
  | .healthMonitor, i => { uuid := i.uuid, tags := i.tags, pool := i.parent }
  | .floatingIP, i => { ip := i.uuid, tags := i.tags }
  | .server, i => { uuid := i.uuid, tags := i.tags, status := "running" }
  | .serverGroup, i => { uuid := i.uuid, tags := i.tags }

theorem Scenario.identOf_resource (S : Scenario) {k : Kind} (req : k.Request) (u : String) :
    identOf (S.resource k (requestIdent req u)) = requestIdent req u := by
  cases k <;> rfl

/-- An identifier longer than any handed out before. -/
def World.nextID (w : World ι) : String := String.ofList (List.replicate (w.issued.length + 1) 'x')

instance (w : World ι) (k : Kind) (id : String) : Decidable (w.Gone k id) :=
  inferInstanceAs (Decidable (∀ i ∈ w.cloud k, i.uuid ≠ id))

instance (w : World ι) (k : Kind) (id : String) : Decidable (w.Fresh k id) :=
  inferInstanceAs (Decidable (_ ∧ _))

instance (w : World ι) (k : Kind) (i : Ident) : Decidable (w.ParentExists k i) :=
  match h : k.parent? with
  | none => isTrue fun _ hpk => absurd (h.symm.trans hpk) (by simp)
  | some pk =>
    if hg : w.Gone pk i.parent then isFalse fun hp => hp pk h hg
    else isTrue fun _ hpk => Option.some.inj (h.symm.trans hpk) ▸ hg

/-- `404`. -/
def notFoundError : ApiError := .response 404 "not found"

/-- A create call. -/
def Scenario.create (S : Scenario) (o : ι) (w : World ι) (k : Kind) (req : k.Request) :
    Except ApiError k.Resource × World ι :=
  let i := requestIdent req w.nextID
  if w.Fresh k w.nextID ∧ w.ParentExists k i then
    match S.fault k with
    | none => (.ok (S.resource k i), w.create o k i)
    | some (.fails e) => (.error e, w)
    | some (.lost e) => (.error e, w.create o k i)
  else (.error (.response 400 "invalid"), w)

/-- The cloud, run. -/
def Scenario.simulate (S : Scenario) (o : ι) : Program.Service (World ι) Op Op.Reply := fun w op =>
  match op with
  | .get k id =>
    match (w.cloud k).find? fun i => i.uuid = id with
    | none => (.error notFoundError, w)
    | some i =>
      if identOf (S.resource k i) = i then (.ok (S.resource k i), w)
      else (.error (.other "malformed"), w)
  | .list k tags =>
    let rs := (w.listed k tags).map (S.resource k)
    if rs.map identOf = w.listed k tags then (.ok rs, w) else (.error (.other "malformed"), w)
  | .create k req => S.create o w k req
  | .delete k id =>
    if w.Gone k id then (.error notFoundError, w) else (.ok (), w.remove k id)
  | .listMembers pool =>
    (.ok ((w.members.filter fun m => m.pool = pool).map fun m =>
      { uuid := m.uuid, name := m.name }), w)
  | .createMember pool req =>
    if w.Gone .pool pool then (.error notFoundError, w)
    else (.ok { uuid := w.nextID, name := req.name },
      w.createMember { uuid := w.nextID, pool, name := req.name })
  | .updateMember _ _ _ => (.ok (), w)
  | .deleteMember pool id => (.ok (), w.removeMember pool id)
  | .createInterface _ req => (.ok { uuid := w.nextID, network := req.network }, w)
  | .deleteInterface _ _ => (.ok (), w)
  | .updateFloatingIP _ _ => (.ok (), w)
  | .listMachines _ _ _ =>
    if (S.machines.map (·.metadata.name)).Nodup then (.ok S.machines, w)
    else (.error (.other "duplicate"), w)
  | .getSecret _ _ => (.ok S.secret, w)

/-! ## It answers as the API does -/

theorem Scenario.create_answers (S : Scenario) (o : ι) (w : World ι) (k : Kind) (req : k.Request) :
    Answers o w (.create k req) (S.create o w k req).1 (S.create o w k req).2 := by
  by_cases h : w.Fresh k w.nextID ∧ w.ParentExists k (requestIdent req w.nextID)
  · simp only [Scenario.create, h, and_self, if_true]
    obtain ⟨hfresh, hparent⟩ := h
    have hident := S.identOf_resource req w.nextID
    have huuid : uuidOf (S.resource k (requestIdent req w.nextID)) = w.nextID := by
      rw [← identOf_uuid, hident, requestIdent_uuid]
    split
    · have hok : Answers o w (.create k req) (.ok (S.resource k (requestIdent req w.nextID)))
          (w.create o k (identOf (S.resource k (requestIdent req w.nextID)))) :=
        .create_ok (by rwa [huuid]) (by rw [huuid, hident]) (by rwa [hident])
      rwa [hident] at hok
    · exact .create_err
    · exact .create_lost hfresh hparent
  · simp only [Scenario.create, h, if_false]
    exact .create_err

theorem Scenario.simulate_answers (S : Scenario) (o : ι) (w : World ι) (op : Op) :
    Answers o w op (S.simulate o w op).1 (S.simulate o w op).2 := by
  cases op with
  | get k id =>
      simp only [simulate]
      split
      · exact .get_err
      · next i hfind =>
          split
          · next hident =>
              refine .get_ok (hident.symm ▸ List.mem_of_find?_eq_some hfind) ?_
              rw [← identOf_uuid, hident]
              simpa using List.find?_some hfind
          · exact .get_err
  | list k tags =>
      simp only [simulate]
      split
      · next h => exact .list_ok h
      · exact .list_err
  | create k req => exact S.create_answers o w k req
  | delete k id =>
      simp only [simulate]
      split
      · exact .delete_err
      · exact .delete_ok
  | listMembers pool =>
      refine .listMembers_ok ?_
      rw [List.map_map]
      conv_rhs => rw [← List.map_id (w.members.filter fun m => m.pool = pool)]
      refine List.map_congr_left fun m hm => ?_
      have hpool : m.pool = pool := by simpa using (List.mem_filter.mp hm).2
      simp [← hpool]
  | createMember pool req =>
      simp only [simulate]
      split
      · exact .createMember_err
      · next h => exact .createMember_ok h
  | updateMember pool id req => exact .updateMember
  | deleteMember pool id => exact .deleteMember_ok
  | createInterface router req => exact .createInterface
  | deleteInterface router iface => exact .deleteInterface
  | updateFloatingIP ip req => exact .updateFloatingIP
  | listMachines ns name cp =>
      simp only [simulate]
      split
      · next h => exact .listMachines fun ms hms => by cases hms; exact h
      · exact .listMachines fun ms hms => by cases hms
  | getSecret ns name => exact .getSecret

/-- Its 404s are truthful. -/
theorem Scenario.simulate_truthful (S : Scenario) (o : ι) (w : World ι) (op : Op) :
    TruthfulReply w op (S.simulate o w op).1 := by
  cases op with
  | get k id =>
      simp only [simulate]
      split
      · next hfind =>
          intro _ i hi hid
          simpa [hid] using List.find?_eq_none.mp hfind i hi
      · split
        · trivial
        · exact fun h => absurd h (by decide)
  | delete k id =>
      simp only [simulate]
      split
      · next h => exact fun _ => h
      · trivial
  | _ => trivial

/-! ## A cloud without resources -/

/-- A project with nothing in it, where creates run into their deadline. -/
def emptyReply : (op : Op) → op.Reply
  | .get _ _ => .error (.response 404 "not found")
  | .list _ _ => .ok []
  | .create _ _ => .error (.timeout "deadline exceeded")
  | .delete _ _ => .ok ()
  | .listMembers _ => .ok []
  | .createMember _ _ => .error (.timeout "deadline exceeded")
  | .updateMember _ _ _ => .ok ()
  | .deleteMember _ _ => .ok ()
  | .createInterface _ _ => .error (.timeout "deadline exceeded")
  | .deleteInterface _ _ => .ok ()
  | .updateFloatingIP _ _ => .ok ()
  | .listMachines _ _ _ => .ok []
  | .getSecret _ _ => .ok []

end Capcs.Cloudscale
