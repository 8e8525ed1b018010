import MoodleTenancy.Declaration.Basic
import MoodleTenancy.Kind
import MoodleTenancy.Names

/-!
# What the operator listens to

* `Registration`: a handler and the events that it is called for.
* `Registration.all`: all of them.
* `registry`: the same in the order of trigger, id and reason.
-/

namespace MoodleTenancy
set_option autoImplicit false

open Numeric

inductive Trigger where
  | change
  | event
  | startup
  | timer
deriving DecidableEq

def Trigger.name : Trigger → String
  | change => "change"
  | event => "event"
  | startup => "startup"
  | timer => "timer"

/-- A resource of the API server. -/
structure Resource where
  group : String
  version : String
  plural : String
deriving DecidableEq

def Resource.tenants : Resource :=
  ⟨Declaration.group, Declaration.version, Declaration.plural⟩

def Resource.ofKind (k : Kind) : Resource := ⟨k.group, k.version, k.plural⟩

structure Registration where
  trigger : Trigger
  id : String
  handler : String
  /-- Which changes, for changes. -/
  reason : Option String := none
  resource : Option Resource := none
  /-- A label that objects have to carry. -/
  label : Option String := none
  /-- Whether the framework adds a finalizer of its own, where that is a choice. -/
  requiresFinalizer : Option Bool := none
  interval : Option Binary64 := none
  idle : Option Binary64 := none
deriving DecidableEq

/-- A handler of changes to tenants. -/
def Registration.forTenants (handler reason : String) (requiresFinalizer : Option Bool) :
    Registration where
  trigger := .change
  id := handler
  handler := handler
  reason := some reason
  resource := some .tenants
  requiresFinalizer := requiresFinalizer

/-- The handler of events of a kind of objects that tenants own. -/
def Registration.forKind (k : Kind) : Registration where
  trigger := .event
  id := "owned-" ++ k.plural
  handler := "owned_event"
  resource := some (.ofKind k)
  label := some Names.labelKey

/-- All handlers. The delete handler needs no finalizer of the framework's, since the guard keeps
the tenant. -/
def Registration.all (s : Settings) : List Registration :=
  [{ trigger := .startup, id := "configure", handler := "configure" },
    .forTenants "reconcile_tenant" "create" none,
    .forTenants "reconcile_tenant" "update" none,
    .forTenants "reconcile_tenant" "resume" none,
    .forTenants "finalize_tenant" "delete" (some false),
    { trigger := .timer
      id := "resync_tenant"
      handler := "resync_tenant"
      resource := some .tenants
      interval := some s.resyncInterval
      idle := some s.resyncInterval }] ++
  Kind.all.map Registration.forKind

/-- What registrations are ordered by. -/
def Registration.rank (r : Registration) : List String :=
  [r.trigger.name, r.id, r.reason.getD ""]

def registry (s : Settings) : List Registration :=
  (Registration.all s).mergeSort fun a b => !b.rank.lex a.rank

end MoodleTenancy
