import Capcs.Cloudscale.Sdk
import Mathlib.Data.List.Basic

/-!
# Capcs.Cloudscale.World — the cloud, as far as identity goes

The state of a cloudscale project that ownership arguments need: which resources
exist, under which identifier, with which tags and below which parent. Everything
else a resource carries (status, addresses, members' addresses) is free, so a
reply is only tied to the world through `identOf`.

* `World.remove` — deletion, with children going with their parent.
* `Answers` — what a call may return and do. A create that reports an error may
  still have taken effect, and so may a delete; lists by tag are exact.
* `TruthfulReply`, `Lossless` — what the results about leaks need on top: a 404 is
  truthful, and no resource is created without its creator learning about it.
-/

namespace Capcs.Cloudscale

/-- What identifies a resource: its UUID, its tags, and the resource it lives in. -/
structure Ident where
  uuid : String
  tags : TagMap := []
  parent : String := ""
  deriving DecidableEq, Repr

/-- The identity of a resource. -/
def identOf : {k : Kind} → k.Resource → Ident
  | .network, r => { uuid := r.uuid, tags := r.tags }
  | .subnet, r => { uuid := r.uuid, tags := r.tags, parent := r.network }
  | .router, r => { uuid := r.uuid, tags := r.tags }
  | .loadBalancer, r => { uuid := r.uuid, tags := r.tags }
  | .pool, r => { uuid := r.uuid, tags := r.tags, parent := r.loadBalancer }
  | .listener, r => { uuid := r.uuid, tags := r.tags, parent := r.pool }
  | .healthMonitor, r => { uuid := r.uuid, tags := r.tags, parent := r.pool }
  | .floatingIP, r => { uuid := r.ip, tags := r.tags }
  | .server, r => { uuid := r.uuid, tags := r.tags }
  | .serverGroup, r => { uuid := r.uuid, tags := r.tags }

/-- The identity a create request gives the new resource. -/
def requestIdent : {k : Kind} → k.Request → String → Ident
  | .network, req, uuid => { uuid, tags := req.tags }
  | .subnet, req, uuid => { uuid, tags := req.tags, parent := req.network }
  | .router, req, uuid => { uuid, tags := req.tags }
  | .loadBalancer, req, uuid => { uuid, tags := req.tags }
  | .pool, req, uuid => { uuid, tags := req.tags, parent := req.loadBalancer }
  | .listener, req, uuid => { uuid, tags := req.tags, parent := req.pool }
  | .healthMonitor, req, uuid => { uuid, tags := req.tags, parent := req.pool }
  | .floatingIP, req, uuid => { uuid, tags := req.tags }
  | .server, req, uuid => { uuid, tags := req.tags }
  | .serverGroup, req, uuid => { uuid, tags := req.tags }

@[simp] theorem identOf_uuid {k : Kind} (r : k.Resource) : (identOf r).uuid = uuidOf r := by
  cases k <;> rfl

@[simp] theorem requestIdent_uuid {k : Kind} (req : k.Request) (u : String) :
    (requestIdent req u).uuid = u := by
  cases k <;> rfl

@[simp] theorem requestIdent_tags {k : Kind} (req : k.Request) (u : String) :
    (requestIdent req u).tags = requestTags req := by
  cases k <;> rfl

/-- The kind of resource a kind lives in. -/
def Kind.parent? : Kind → Option Kind
  | .subnet => some .network
  | .pool => some .loadBalancer
  | .listener => some .pool
  | .healthMonitor => some .pool
  | _ => none

/-- A pool member: its UUID, its pool and its name. -/
structure Member where
  uuid : String
  pool : String
  name : String
  deriving DecidableEq, Repr

/-- The cloud, and a record of who created what in it. `issued` are the
identifiers ever handed out. -/
structure World (ι : Type) where
  cloud : Kind → List Ident
  members : List Member
  issued : List (Kind × String)
  created : List (ι × Kind × String)

namespace World

variable {ι : Type}

/-- The empty cloud. -/
def empty : World ι := { cloud := fun _ => [], members := [], issued := [], created := [] }

/-- The resources a tag filter selects. -/
def listed (w : World ι) (k : Kind) (tags : TagMap) : List Ident :=
  (w.cloud k).filter fun i => matchesTags tags i.tags

/-- The members of a pool with a name. -/
def membersNamed (w : World ι) (pool name : String) : List Member :=
  w.members.filter fun m => m.pool = pool ∧ m.name = name

/-- No resource of the kind has the identifier. -/
def Gone (w : World ι) (k : Kind) (id : String) : Prop := ∀ i ∈ w.cloud k, i.uuid ≠ id

/-- An identifier never handed out before. The address of a floating IP is one: that of
a released floating IP is not fresh, although the API may hand it out again. -/
def Fresh (w : World ι) (k : Kind) (id : String) : Prop := id ≠ "" ∧ (k, id) ∉ w.issued

/-- The resource an identity lives in exists. -/
def ParentExists (w : World ι) (k : Kind) (i : Ident) : Prop :=
  ∀ pk, k.parent? = some pk → ¬ w.Gone pk i.parent

/-- Add a resource. -/
def insert (w : World ι) (k : Kind) (i : Ident) : World ι :=
  { w with cloud := fun k' => if k' = k then w.cloud k' ++ [i] else w.cloud k'
           issued := (k, i.uuid) :: w.issued }

/-- A create call made for `o` takes effect. -/
def create (w : World ι) (o : ι) (k : Kind) (i : Ident) : World ι :=
  { w.insert k i with created := (o, k, i.uuid) :: w.created }

/-- A resource of kind `k'` goes when the one of kind `k` and identifier `id` does:
it is that resource, or lives below it. -/
def goesWith (w : World ι) (k : Kind) (id : String) (k' : Kind) (i : Ident) : Bool :=
  (k' = k ∧ i.uuid = id) ∨
  (k'.parent? = some k ∧ i.parent = id) ∨
  (k = .loadBalancer ∧ k'.parent? = some .pool ∧
    ∃ p ∈ w.cloud .pool, p.uuid = i.parent ∧ p.parent = id)

/-- A member goes when its pool, or the load balancer of its pool, does. -/
def memberGoesWith (w : World ι) (k : Kind) (id : String) (m : Member) : Bool :=
  (k = .pool ∧ m.pool = id) ∨
  (k = .loadBalancer ∧ ∃ p ∈ w.cloud .pool, p.uuid = m.pool ∧ p.parent = id)

/-- Delete a resource and everything below it. -/
def remove (w : World ι) (k : Kind) (id : String) : World ι :=
  { w with cloud := fun k' => (w.cloud k').filter fun i => !w.goesWith k id k' i
           members := w.members.filter fun m => !w.memberGoesWith k id m }

/-- Add a pool member. -/
def createMember (w : World ι) (m : Member) : World ι := { w with members := w.members ++ [m] }

/-- Delete a pool member. -/
def removeMember (w : World ι) (pool uuid : String) : World ι :=
  { w with members := w.members.filter fun m => ¬ (m.pool = pool ∧ m.uuid = uuid) }

end World

/-! ## The contract of the API -/

/-- How the API answers a call made for `o`, as long as it hands out no identifier
twice. Payload is unconstrained, but machine names are unique, as they are in one
namespace. -/
inductive Answers {ι : Type} (o : ι) : World ι → (op : Op) → op.Reply → World ι → Prop where
  | get_ok {w k} {r : k.Resource} {id} (found : identOf r ∈ w.cloud k) (same : uuidOf r = id) :
      Answers o w (.get k id) (.ok r) w
  | get_err {w k id e} : Answers o w (.get k id) (.error e) w
  | list_ok {w k tags} {rs : List k.Resource} (exact_ : rs.map identOf = w.listed k tags) :
      Answers o w (.list k tags) (.ok rs) w
  | list_err {w k tags e} : Answers o w (.list k tags) (.error e) w
  | create_ok {w k} {req : k.Request} {r : k.Resource} (fresh : w.Fresh k (uuidOf r))
      (same : identOf r = requestIdent req (uuidOf r)) (parent : w.ParentExists k (identOf r)) :
      Answers o w (.create k req) (.ok r) (w.create o k (identOf r))
  | create_err {w k} {req : k.Request} {e} : Answers o w (.create k req) (.error e) w
  | create_lost {w k} {req : k.Request} {u e} (fresh : w.Fresh k u)
      (parent : w.ParentExists k (requestIdent req u)) :
      Answers o w (.create k req) (.error e) (w.create o k (requestIdent req u))
  | delete_ok {w k id} : Answers o w (.delete k id) (.ok ()) (w.remove k id)
  | delete_err {w k id e} : Answers o w (.delete k id) (.error e) w
  | delete_lost {w k id e} : Answers o w (.delete k id) (.error e) (w.remove k id)
  | listMembers_ok {w pool} {ms : List LoadBalancerPoolMember}
      (exact_ : ms.map (fun m => Member.mk m.uuid pool m.name) =
        w.members.filter fun m => m.pool = pool) :
      Answers o w (.listMembers pool) (.ok ms) w
  | listMembers_err {w pool e} : Answers o w (.listMembers pool) (.error e) w
  | createMember_ok {w pool req} {m : LoadBalancerPoolMember} (parent : ¬ w.Gone .pool pool) :
      Answers o w (.createMember pool req) (.ok m)
        (w.createMember { uuid := m.uuid, pool, name := req.name })
  | createMember_err {w pool req e} : Answers o w (.createMember pool req) (.error e) w
  | createMember_lost {w pool req e u} (parent : ¬ w.Gone .pool pool) :
      Answers o w (.createMember pool req) (.error e)
        (w.createMember { uuid := u, pool, name := req.name })
  | updateMember {w pool id req r} : Answers o w (.updateMember pool id req) r w
  | deleteMember_ok {w pool id} : Answers o w (.deleteMember pool id) (.ok ())
      (w.removeMember pool id)
  | deleteMember_err {w pool id e} : Answers o w (.deleteMember pool id) (.error e) w
  | deleteMember_lost {w pool id e} :
      Answers o w (.deleteMember pool id) (.error e) (w.removeMember pool id)
  | createInterface {w router req r} : Answers o w (.createInterface router req) r w
  | deleteInterface {w router iface r} : Answers o w (.deleteInterface router iface) r w
  | updateFloatingIP {w ip req r} : Answers o w (.updateFloatingIP ip req) r w
  | listMachines {w ns name cp} {r : Except KubeError (List CloudscaleMachine)}
      (names : ∀ ms, r = .ok ms → (ms.map (·.metadata.name)).Nodup) :
      Answers o w (.listMachines ns name cp) r w
  | getSecret {w ns name r} : Answers o w (.getSecret ns name) r w

/-! ## Replies that can be trusted -/

/-- A 404 is truthful. -/
def TruthfulReply {ι : Type} (w : World ι) : (op : Op) → op.Reply → Prop
  | .get k id, .error e => isNotFound e → w.Gone k id
  | .delete k id, .error e => isNotFound e → w.Gone k id
  | _, _ => True

/-- A network that was created here has no subnet yet. -/
def World.Bare {ι : Type} (w : World ι) : Prop :=
  ∃ n ∈ w.cloud .network, (∃ o, (o, .network, n.uuid) ∈ w.created) ∧
    ∀ s ∈ w.cloud .subnet, s.parent ≠ n.uuid

/-- The reply loses no resource: a create that fails has not taken effect, and no
subnet call fails while a network created here has no subnet yet. -/
def Lossless {ι : Type} (w : World ι) : (op : Op) → op.Reply → World ι → Prop
  | .get k _, .error e, _ => k = .subnet → isNotFound e = false → ¬ w.Bare
  | .list k _, .error _, _ => k = .subnet → ¬ w.Bare
  | .create k _, .error _, w' => w' = w ∧ (k = .subnet → ¬ w.Bare)
  | _, _, _ => True

/-- What the results about leaks need of a reply. -/
def Faithful {ι : Type} (w : World ι) (op : Op) (r : op.Reply) (w' : World ι) : Prop :=
  TruthfulReply w op r ∧ Lossless w op r w'

end Capcs.Cloudscale
