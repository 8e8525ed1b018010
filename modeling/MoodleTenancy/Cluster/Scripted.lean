import MoodleTenancy.Cluster.Http
import MoodleTenancy.Cluster.Table

/-!
# Scripted HTTP servers

A server that keeps objects by path. A script makes chosen requests fail or answers them with given
responses; all others act on the store. It keeps no versions, and deleting a namespace leaves what
is in it.

* `ScriptedServer`: the state, with the requests received so far.
* `ScriptedServer.respond`: the response to a request.
-/

namespace MoodleTenancy
set_option autoImplicit false

structure ScriptedServer where
  store : Table String Json := []
  /-- Responses to requests, by method and path. -/
  canned : Table String Json := []
  /-- Faults in answer to requests, by method and path. -/
  failures : Table String Fault := []
  requests : List Request := []

namespace ScriptedServer

/-- What the script names a request by. -/
def scriptKey (r : Request) : String := r.method.name ++ " " ++ r.path

/-- The object at a path, which has to be there. -/
def stored (path : String) : Task ScriptedServer Json := do
  match (← Task.state).store.get? path with
  | some j => return j
  | none => Task.fail .notFound

def put (path : String) (j : Json) : Task ScriptedServer Unit :=
  Task.update fun s => { s with store := s.store.insert path j }

/-- The path of the object whose status a path is. -/
def withoutStatus (path : String) : String :=
  if path.endsWith "/status" then String.ofList (path.toList.take (path.length - 7)) else path

/-- The object with the fields of a patch over it. -/
def patched : Json → (patch : Json) → Except Fault Json
  | .obj fields, patch =>
    let (fields, result) := Fields.absorb patch fields
    result.map fun _ => .obj fields
  | j, _ => .error (.lacks j.kindName "update")

def post (collection : String) (j : Json) : Task ScriptedServer Json := do
  let name ← Task.ofExcept ((j.entry "metadata").bind (Json.entry "name"))
  let path := collection ++ "/" ++ name.plain
  match (← Task.state).store.get? path with
  | some _ => Task.fail .alreadyExists
  | none =>
    put path j
    return j

/-- The response of the store. -/
def act (r : Request) : Task ScriptedServer Json := do
  let body := Json.ofOption r.body
  match r.method with
  | .post => post r.path body
  | .get => stored r.path
  | .put =>
    let _ ← stored r.path
    put r.path body
    return body
  | .patch =>
    let path := withoutStatus r.path
    let j ← Task.ofExcept (patched (← stored path) body)
    put path j
    return j
  | .delete =>
    let j ← stored r.path
    Task.update fun s => { s with store := s.store.erase r.path }
    return j

def respond (r : Request) : Task ScriptedServer Json := do
  Task.update fun s => { s with requests := s.requests ++ [r] }
  let s ← Task.state
  match s.failures.get? (scriptKey r), s.canned.get? (scriptKey r) with
  | some fault, _ => Task.fail fault
  | none, some response => return response
  | none, none => act r

instance : Transport ScriptedServer where
  send := respond

instance : ApiServer ScriptedServer := ApiServer.overHttp

def paths (s : ScriptedServer) : List String :=
  s.store.keys.mergeSort fun a b => a ≤ b

end ScriptedServer
end MoodleTenancy
