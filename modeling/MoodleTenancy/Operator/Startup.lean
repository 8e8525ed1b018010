import MoodleTenancy.Operator.World
import MoodleTenancy.Numeric.Shortest

/-!
# Startup

At startup the operator sets the framework up and loads the access to its cluster: from the pod it
runs in, or else, unless it is told to run in a pod, from a file. Access that was loaded stays
loaded.

* `LoaderReplies`: what the loaders would say.
* `loadAccess`: which loaders are called, and how that ends.
* `Startup.attempt`, `Startup.attempts`: one attempt to start, and several.
-/

namespace MoodleTenancy
set_option autoImplicit false

/-- What the loaders would say: nothing if they succeed, else why they do not. -/
structure LoaderReplies where
  inCluster : Option String := none
  kubeconfig : Option String := none

/-- A call of a loader. -/
inductive LoaderCall where
  | inCluster
  /-- The file, if not the loader's own choice. -/
  | kubeconfig (file : Option String)
deriving DecidableEq

/-- How loading ends: the calls made, and why the last of them failed if it did. -/
structure Loading where
  calls : List LoaderCall := []
  failure : Option String := none
deriving DecidableEq

/-- The file to load from; the empty name leaves the choice to the loader. -/
def Settings.kubeconfigFile (s : Settings) : Option String :=
  if s.kubeconfig = "" then none else some s.kubeconfig

/-- Loads the access to the cluster unless that was done before. -/
def loadAccess (s : Settings) (replies : LoaderReplies) (loaded : Bool) : Loading :=
  if loaded then {}
  else
    match replies.inCluster with
    | none => ⟨[.inCluster], none⟩
    | some why =>
      if s.inCluster then ⟨[.inCluster], some why⟩
      else ⟨[.inCluster, .kubeconfig s.kubeconfigFile], replies.kubeconfig⟩

/-- What an attempt to start does and leaves behind. -/
structure Startup where
  loading : Loading := {}
  fault : Option Fault := none
  journal : List LogRecord := []
  posting : Bool
  maxWorkers : Option Int := none

namespace Startup

/-- The line logged by a start that succeeds. -/
def startedLine (s : Settings) : String :=
  "Moodle Operator started (max_workers=" ++ toString s.maxParallelReconciles ++ ", resync=" ++
    s.resyncInterval.wholeText ++ "s)"

/-- One attempt to start. The framework admits no fewer than one worker. -/
def attempt (s : Settings) (replies : LoaderReplies) (loaded : Bool) : Startup :=
  if s.maxParallelReconciles < 1 then
    { posting := s.postingEnabled, fault := some .tooFewWorkers }
  else
    let loading := loadAccess s replies loaded
    match loading.failure with
    | some why =>
      { loading := loading
        fault := some (.giveUp ("Cannot load Kubernetes configuration: " ++ why))
        posting := s.postingEnabled
        maxWorkers := some s.maxParallelReconciles }
    | none =>
      { loading := loading
        journal := [⟨.operator, .info, startedLine s⟩]
        posting := s.postingEnabled
        maxWorkers := some s.maxParallelReconciles }

/-- Whether the access is loaded after an attempt. -/
def isLoaded (a : Startup) (loaded : Bool) : Bool :=
  loaded || (!a.loading.calls.isEmpty && a.loading.failure.isNone)

/-- Attempts to start, one after the other. -/
def attempts (s : Settings) : (loaded : Bool) → List LoaderReplies → List Startup
  | _, [] => []
  | loaded, replies :: rest =>
    let a := attempt s replies loaded
    a :: attempts s (a.isLoaded loaded) rest

end Startup
end MoodleTenancy
