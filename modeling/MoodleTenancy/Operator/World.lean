import MoodleTenancy.Cluster.ApiServer
import MoodleTenancy.Settings

/-!
# The operator and its surroundings

* `LogRecord`: one line that the operator logs.
* `World σ`: a cluster with states in `σ`, and what has been logged.
* `Job σ α`: a task in a world. `Job.call`, `Job.log`: a call to the cluster, a line of log.
* `Operator`: what a pass depends on beside the cluster.
-/

namespace MoodleTenancy
set_option autoImplicit false

open Numeric

inductive LogLevel where
  | info
  | warning
  | error
deriving DecidableEq

def LogLevel.name : LogLevel → String
  | info => "INFO"
  | warning => "WARNING"
  | error => "ERROR"

/-- The part of the operator that logs. -/
inductive LogSource where
  | objects
  | namespaces
  | guard
  | pass
  | operator
deriving DecidableEq

def LogSource.name : LogSource → String
  | objects => "applier"
  | namespaces => "namespaces"
  | guard => "finalizer"
  | pass => "reconciler"
  | operator => "moodle-operator"

structure LogRecord where
  source : LogSource
  level : LogLevel
  text : String
deriving DecidableEq

structure World (σ : Type) where
  cluster : σ
  journal : List LogRecord := []

def World.log {σ : Type} (w : World σ) (source : LogSource) (level : LogLevel) (text : String) :
    World σ :=
  { w with journal := w.journal ++ [⟨source, level, text⟩] }

@[simp] theorem World.cluster_log {σ : Type} (w : World σ) (source : LogSource)
    (level : LogLevel) (text : String) : (w.log source level text).cluster = w.cluster := rfl

abbrev Job (σ α : Type) := Task (World σ) α

namespace Job

variable {σ α : Type}

/-- A task of the cluster. -/
def call (t : Task σ α) : Job σ α :=
  Task.within World.cluster (fun c w => { w with cluster := c }) t

def log (source : LogSource) (level : LogLevel) (text : String) : Job σ Unit :=
  Task.update fun w => w.log source level text

def info (source : LogSource) (text : String) : Job σ Unit := log source .info text

@[simp] theorem run_call (t : Task σ α) (w : World σ) :
    (call t).run w = ((t.run w.cluster).1, { w with cluster := (t.run w.cluster).2 }) := rfl

@[simp] theorem run_log (source : LogSource) (level : LogLevel) (text : String) (w : World σ) :
    (log source level text).run w = (.ok (), w.log source level text) := rfl

@[simp] theorem run_info (source : LogSource) (text : String) (w : World σ) :
    (info source text).run w = (.ok (), w.log source .info text) := rfl

end Job

/-- What a pass depends on beside the cluster. -/
structure Operator where
  settings : Settings := {}
  /-- The finalizer that keeps a tenant until its namespace is deleted. -/
  guard : String := settings.finalizer
  /-- The seconds to wait after a namespace was created, if any. -/
  requeueDelay : Option Binary64 := some settings.requeueDelay

end MoodleTenancy
