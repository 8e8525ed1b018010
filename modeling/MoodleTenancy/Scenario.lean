import MoodleTenancy.Cluster.Memory
import MoodleTenancy.Cluster.Scripted
import MoodleTenancy.Operator.Handlers
import MoodleTenancy.Schema.Sending

/-!
# Scenarios

A scenario is a list of steps that a cluster and its operator go through. Steps call the cluster,
act on it from outside or set the operator to work; bodies read from the cluster can be kept in
slots and used in later steps, so that readers interleave.

* `Body`: a body given or kept. `Step`: a step for any cluster. `MemoryStep`: also from outside.
* `Answer`: what a step returns.
* `Session σ`: the state between steps. `Session.perform`, `Session.performInMemory`: one step.
-/

namespace MoodleTenancy
set_option autoImplicit false

open Numeric

/-! ## Steps -/

/-- A body given with a step, or kept in a slot. -/
inductive Body where
  | given (body : Json)
  | kept (slot : String)

/-- The objects of a tenant that can be asked for by name. -/
inductive ChildName where
  | space
  | component (p : Component)
deriving DecidableEq

namespace ChildName

def parse : String → Except Fault ChildName
  | "namespace" => .ok .space
  | "secret" => .ok (.component .secret)
  | "deployment" => .ok (.component .deployment)
  | "pvc" => .ok (.component .claim)
  | "service" => .ok (.component .service)
  | "ingress" => .ok (.component .ingress)
  | "network_policy" => .ok (.component .networkPolicy)
  | "hpa" => .ok (.component .autoscaler)
  | "cron_job" => .ok (.component .cronJob)
  | "pdb" => .ok (.component .budget)
  | s => .error (.missingKey (.str s))

def build (s : Settings) (t : Declaration) (ns : Option String) : ChildName → Except Fault Child
  | space => .ok (.space s t)
  | component p => p.build s t ns

end ChildName

def Kind.parse (s : String) : Except Fault Kind :=
  match Kind.ofName? s with
  | some k => .ok k
  | none => .error (.unknownKind s)

/-- What a pass is told to have resulted in. -/
structure ToldResult where
  outcome : String
  name : Json
  body : Option Json := none
  declaration : Option Json := none
  namespaceCreated : Bool := false
  created : List String := []
  fault : Option Fault := none
  requeueAfter : Option Binary64 := none

/-- The result, if the declaration is valid and there is such an outcome. -/
def ToldResult.parse (r : ToldResult) : Except Fault PassResult := do
  let declaration ← r.declaration.mapM Declaration.parse
  let outcome ← Outcome.parse r.outcome
  return {
    outcome := outcome
    name := r.name
    body := r.body
    declaration := declaration
    namespaceCreated := r.namespaceCreated
    created := r.created
    fault := r.fault
    requeueAfter := r.requeueAfter }

inductive Step where
  | read (kind name : String) (namespaceName : Option String)
  | create (kind child : String) (body : Body) (namespaceName : Option String)
  | delete (kind name : String) (namespaceName : Option String)
  | readTenant (name : Json) (slot : Option String)
  | listTenants
  | replaceTenant (body : Body)
  | patchStatus (name : Json) (status : Json)
  | supply (child : String) (body : Body) (namespaceName : Option String)
  | supplyBare (kind name : String) (namespaceName : Option String)
  | openNamespace (body : Body)
  | closeNamespace (name : String)
  | stage (body : Body)
  | guardTenant (body : Body) (slot : Option String)
  | cleanUp (body : Body)
  | reconcile (name : Json)
  | attend (name : Json)
  | publish (result : ToldResult)
  | onChange (name : Json) (retry : Int)
  | onDelete (name : Json) (retry : Int)
  | onTimer (name : Json)
  | onObjectEvent (event labels : Json)

inductive MemoryStep where
  | enrol (body : Json)
  | editTenant (name : Json) (path : List Json) (change : Change)
  | retire (name : Json)
  | injectFailure (verb : String) (kind : Option String) (fault : Fault)
  | clearFailures
  | editObject (kind name : String) (namespaceName : Option String) (path : List Json)
      (change : Change)
  | common (step : Step)

inductive Answer where
  | nothing
  | flag (b : Bool)
  | document (j : Option Json)
  | names (ns : List Json)
  | supplied (s : Supplied)
  | stage (s : Stage)
  | result (r : PassResult)

/-! ## Sessions -/

structure Session (σ : Type) where
  world : World σ
  operator : Operator
  slots : Table String Json := []
  clock : Time.Instant := 0

namespace Session

variable {σ : Type}

def job {α : Type} (j : Job σ α) : Task (Session σ) α :=
  Task.within Session.world (fun w s => { s with world := w }) j

def call {α : Type} (t : Task σ α) : Task (Session σ) α := job (Job.call t)

/-- A job of the session's operator. -/
def operate {α : Type} (f : Operator → (now : Time.Instant) → Job σ α) : Task (Session σ) α := do
  let s ← Task.state
  job (f s.operator s.clock)

/-- The body that is meant. -/
def body : Body → Task (Session σ) Json
  | .given j => return j
  | .kept slot => do
    match (← Task.state).slots.get? slot with
    | some j => return j
    | none => Task.fail (.missingKey (.str slot))

def keep (slot : Option String) (j : Json) : Task (Session σ) Unit :=
  match slot with
  | none => return ()
  | some slot => Task.update fun s => { s with slots := s.slots.insert slot j }

def kind (name : String) : Task (Session σ) Kind := Task.ofExcept (Kind.parse name)

def declaration (b : Body) : Task (Session σ) Declaration := do
  Task.ofExcept (Declaration.parse (← body b))

/-- An object of a tenant, in a namespace. -/
def child (name : String) (b : Body) (ns : Option String) : Task (Session σ) Manifest := do
  let name ← Task.ofExcept (ChildName.parse name)
  let t ← declaration b
  return (← Task.ofExcept (name.build (← Task.state).operator.settings t ns)).manifest

variable [ApiServer σ]

def perform : Step → Task (Session σ) Answer
  | .read k name ns => do
    let found ← call (ApiServer.read (← kind k) name ns)
    let settled ← Task.ofExcept (found.mapM Part.settled)
    return .document (settled.map Part.toJson)
  | .create k name b ns => do
    let k ← kind k
    let m ← child name b ns
    return .document (some (← call (ApiServer.create k m)))
  | .delete k name ns => do
    return .flag (← call (ApiServer.delete (← kind k) name ns))
  | .readTenant name slot => do
    let found ← call (ApiServer.readTenant name)
    keep slot (.ofOption found)
    return .document found
  | .listTenants => do
    return .names (← call ApiServer.listTenants)
  | .replaceTenant b => do
    return .document (some (← call (ApiServer.replaceTenant (← body b))))
  | .patchStatus name status => do
    call (ApiServer.patchTenantStatus name status)
    return .nothing
  | .supply name b ns => do
    let m ← child name b ns
    return .supplied (← job m.supply)
  | .supplyBare k name ns => do
    return .supplied (← job (Manifest.bare ⟨← kind k, ns, name⟩).supply)
  | .openNamespace b => do
    let t ← declaration b
    return .flag (← operate fun op _ => MoodleTenancy.openNamespace op.settings t)
  | .closeNamespace name => do
    return .flag (← operate fun op _ => MoodleTenancy.closeNamespace op.settings name)
  | .stage b => do
    let j ← body b
    return .stage (← Task.ofExcept ((← Task.state).operator.stage j))
  | .guardTenant b slot => do
    let j ← body b
    let stored ← operate fun op _ => op.guardTenant j
    keep slot stored
    return .document (some stored)
  | .cleanUp b => do
    let j ← body b
    return .document (some (← operate fun op _ => op.cleanUp j))
  | .reconcile name => do
    return .result (← operate fun op _ => op.pass name)
  | .attend name => do
    return .result (← operate fun op now => op.attend now name)
  | .publish told => do
    let r ← Task.ofExcept told.parse
    operate fun op now => op.publish now r
    return .nothing
  | .onChange name retry => do
    operate fun op now => op.onChange now name retry
    return .nothing
  | .onDelete name retry => do
    operate fun op now => op.onDelete now name retry
    return .nothing
  | .onTimer name => do
    operate fun op now => op.onTimer now name
    return .nothing
  | .onObjectEvent event labels => do
    operate fun op now => op.onObjectEvent now event labels
    return .nothing

omit [ApiServer σ] in
def performInMemory : MemoryStep → Task (Session MemoryCluster) Answer
  | .enrol b => do
    return .document (some (← call (MemoryCluster.enrol b)))
  | .editTenant name path change => do
    call (MemoryCluster.editTenant name path change)
    return .nothing
  | .retire name => do
    call (MemoryCluster.retire name)
    return .nothing
  | .injectFailure verb k fault => do
    let k ← Task.ofExcept (k.mapM Kind.parse)
    match Verb.ofName? verb with
    | some v =>
      call (MemoryCluster.injectFailure v k fault)
      return .nothing
    | none => return .nothing
  | .clearFailures => do
    call MemoryCluster.clearFailures
    return .nothing
  | .editObject k name ns path change => do
    call (MemoryCluster.editObject ⟨← kind k, ns, name⟩ path change)
    return .nothing
  | .common step => perform step

end Session
end MoodleTenancy
