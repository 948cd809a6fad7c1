import Capcs.Cloudscale.Sdk
import Capcs.Interaction.Program

/-!
# Capcs.Controller.Services — the reconcile monad and the shared call patterns

What `internal/controller/cloudscale_services.go` and `cloudscale_tags.go` hold,
plus the Go plumbing every reconciler uses: errors with wrapping, `ctrl.Result`,
and the reconcile monad. A reconciler is a `Recon σ` procedure whose local state
is the object being reconciled, in memory: `σ` is the `CloudscaleCluster` or the
`CloudscaleMachine` inside the scope. Logging, events and context deadlines have
no counterpart; a deadline shows up as a timeout reply.
-/

namespace Capcs.Controller

open Cloudscale
open Interaction (Proc)

/-! ## Errors and results -/

/-- The sentinel errors callers test for with `errors.Is`. -/
inductive Sentinel where
  | errServerGroupNotEmpty
  | errNetworkNotReady
  deriving DecidableEq, Repr

/-- A Go error: its text, and the sentinel it wraps, if any. -/
structure GoError where
  text : String
  sentinel : Option Sentinel := none
  deriving DecidableEq, Repr

/-- `fmt.Errorf` without an operand that is an error. -/
def errorf (text : String) : GoError := { text }

/-- `fmt.Errorf("pre%w", err)`. -/
def GoError.wrap (pre : String) (err : GoError) : GoError := { err with text := pre ++ err.text }

/-- `fmt.Errorf("pre%w", err)` for an error of the cloudscale client. -/
def wrapApi (pre : String) (err : ApiError) : GoError := errorf (pre ++ err.text)

/-- `fmt.Errorf("pre%w", err)` for an error of the Kubernetes client. -/
def wrapKube (pre : String) (err : KubeError) : GoError := errorf (pre ++ err.text)

/-- `errors.Join`: nil for no errors, otherwise the texts line by line. -/
def errorsJoin : List GoError → Option GoError
  | [] => none
  | e :: es => some { text := String.intercalate "\n" ((e :: es).map (·.text)),
                      sentinel := (e :: es).findSome? (·.sentinel) }

/-- One character of `%q`. Escapes of unprintable characters are left out. -/
def quoteChar : Char → String
  | '"' => "\\\""
  | '\\' => "\\\\"
  | '\n' => "\\n"
  | '\t' => "\\t"
  | c => String.singleton c

/-- `%q`. -/
def quote (s : String) : String := "\"" ++ String.join (s.toList.map quoteChar) ++ "\""

/-- `ctrl.Result`, with `RequeueAfter` in seconds. -/
structure Result where
  requeueAfter : Nat := 0
  deriving DecidableEq, Repr

/-- `Result.IsZero`. -/
def Result.isZero (r : Result) : Bool := r.requeueAfter = 0

/-! ## The reconcile monad -/

/-- A reconciler working on an in-memory object `σ`. -/
abbrev Recon (σ : Type) := Proc Op Op.Reply σ GoError

/-- A cluster reconciler. -/
abbrev ClusterM := Recon CloudscaleCluster

/-- A machine reconciler. -/
abbrev MachineM := Recon CloudscaleMachine

variable {σ : Type}

def svcGet (k : Kind) (id : String) : Recon σ (Except ApiError k.Resource) :=
  Proc.perform (Op.get k id)

def svcList (k : Kind) (tags : TagMap) : Recon σ (Except ApiError (List k.Resource)) :=
  Proc.perform (Op.list k tags)

def svcCreate (k : Kind) (req : k.Request) : Recon σ (Except ApiError k.Resource) :=
  Proc.perform (Op.create k req)

def svcDelete (k : Kind) (id : String) : Recon σ (Except ApiError Unit) :=
  Proc.perform (Op.delete k id)

/-- A create call as every call site makes it: a timeout is turned into a requeue
(the request may well have landed), any other error is returned. -/
def createResource (k : Kind) (req : k.Request) (what : String) (requeueAfter : Nat) :
    Recon σ (Except Result k.Resource) := do
  match ← svcCreate k req with
  | .ok resource => pure (.ok resource)
  | .error err =>
    if isTimeoutError err then pure (.error { requeueAfter })
    else Proc.fail (wrapApi ("creating " ++ what ++ ": ") err)

/-! ## Ensuring resources -/

/-- The second half of `ensureResource`: look the resource up by its tags. -/
def adoptByTags (k : Kind) (resourceName : String) (tags : TagMap) :
    Recon σ (Option k.Resource × String) := do
  match ← svcList k tags with
  | .error err => Proc.fail (wrapApi ("listing " ++ resourceName ++ "s: ") err)
  | .ok [] => pure (none, "")
  | .ok [item] => pure (some item, uuidOf item)
  | .ok items => Proc.fail (errorf ("found " ++ toString items.length ++ " " ++ resourceName ++
      "s matching tag filter, expected at most 1"))

/-- `ensureResource`: the resource of the recorded ID, or one found by tags. No
resource and an empty ID mean that the caller should create it. The source passes
the service and the ID accessor of one kind; here both follow from `k`. -/
def ensureResource (k : Kind) (currentID resourceName : String) (tags : TagMap) :
    Recon σ (Option k.Resource × String) := do
  if currentID ≠ "" then
    match ← svcGet k currentID with
    | .ok resource => pure (some resource, currentID)
    | .error err =>
      -- deleted externally: fall through to list/recreate
      if isNotFound err then adoptByTags k resourceName tags
      else Proc.fail (wrapApi ("getting " ++ resourceName ++ ": ") err)
  else
    adoptByTags k resourceName tags

/-! ## Ownership tags and conditions -/

/-- `clusterOwnershipTags`. -/
def clusterOwnershipTags (c : CloudscaleCluster) : TagMap :=
  [(c.clusterTagKey, resourceLifecycleOwned)]

/-- `CloudscaleClusterReconciler.setCondition`. -/
def setCondition (t : ConditionType) (status : ConditionStatus) (reason : Reason) (message : String)
    (c : CloudscaleCluster) : CloudscaleCluster :=
  { c with status := { c.status with
      conditions := Conditions.set { type := t, status, reason, message } c.status.conditions } }

end Capcs.Controller
