import MoodleTenancy.Child.OfTenant

/-!
# Components of a tenant

A tenant has nine components, one object each, which a pass makes in a fixed order; two of them are
needed only under autoscaling.

* `Component`: the components; `Component.all` is their order.
* `Component.isNeeded`: whether a declaration calls for a component.
* `Component.build`: the object of a component.
* `Component.kind`, `Component.childName`: which object that is.
-/

namespace MoodleTenancy
set_option autoImplicit false

inductive Component where
  | secret
  | deployment
  | claim
  | service
  | ingress
  | networkPolicy
  | autoscaler
  | cronJob
  | budget
deriving DecidableEq

namespace Component

def all : List Component :=
  [secret, deployment, claim, service, ingress, networkPolicy, autoscaler, cronJob, budget]

theorem mem_all (p : Component) : p ∈ all := by
  cases p <;> decide

def name : Component → String
  | secret => "secret"
  | deployment => "deployment"
  | claim => "pvc"
  | service => "service"
  | ingress => "ingress"
  | networkPolicy => "networkpolicy"
  | autoscaler => "hpa"
  | cronJob => "cronjob"
  | budget => "pdb"

/-- Whether a component is needed only under autoscaling. -/
def isForAutoscaling : Component → Bool
  | autoscaler => true
  | budget => true
  | _ => false

def isNeeded (p : Component) (t : Declaration) : Bool :=
  t.spec.autoscaling.enabled || !p.isForAutoscaling

theorem isNeeded_of_not_isForAutoscaling {p : Component} (h : p.isForAutoscaling = false)
    (t : Declaration) : p.isNeeded t = true := by
  rw [isNeeded, h, Bool.not_false, Bool.or_true]

def kind : Component → Kind
  | secret => .secret
  | deployment => .deployment
  | claim => .persistentVolumeClaim
  | service => .service
  | ingress => .ingress
  | networkPolicy => .networkPolicy
  | autoscaler => .horizontalPodAutoscaler
  | cronJob => .cronJob
  | budget => .podDisruptionBudget

def childName (t : Declaration) : Component → String
  | secret => t.spec.database.adminSecret
  | deployment => Names.deployment t.identifier
  | claim => Names.claim t.identifier
  | service => Names.service t.identifier
  | ingress => Names.ingress t.identifier
  | networkPolicy => Names.networkPolicy
  | autoscaler => Names.autoscaler t.identifier
  | cronJob => Names.cronJob t.identifier
  | budget => Names.budget t.identifier

/-- The object of a component, for an owner. -/
def child (s : Settings) (t : Declaration) (o : Owner) (ns : Option String) : Component → Child
  | secret => .secret t o ns
  | deployment => .deployment s t o ns
  | claim => .claim s t o ns
  | service => .service t o ns
  | ingress => .ingress s t o ns
  | networkPolicy => .policy s t o ns
  | autoscaler => .autoscaler t o ns
  | cronJob => .cronJob t o ns
  | budget => .budget t o ns

/-- The object of a component, if the tenant can own one. -/
def build (s : Settings) (t : Declaration) (ns : Option String) (p : Component) :
    Except Fault Child :=
  (Owner.of t).map fun o => p.child s t o ns

@[simp] theorem key_child (s : Settings) (t : Declaration) (o : Owner) (ns : Option String)
    (p : Component) : (p.child s t o ns).key = ⟨p.kind, ns, p.childName t⟩ := by
  cases p <;> rfl

theorem kind_inj {p q : Component} (h : p.kind = q.kind) : p = q := by
  cases p <;> cases q <;> first | rfl | exact absurd h (by decide)

end Component
end MoodleTenancy
