import GpuCluster.Text.Blank
import GpuCluster.Text.Json.Parse
import GpuCluster.Text.Json.Record
import GpuCluster.Error

/-!
# Access to the cluster

A kubeconfig names clusters, users and contexts, each a pair of the two, and the current context.

* `Kubeconfig.read?` : the configuration that a text holds;
* `Kubeconfig.server?` : the address of the current context;
* `Kubeconfig.connect` : a file as a connection, or the error that stands in its way.
-/

namespace GpuCluster

namespace Error

def kubeconfigUnreadable (path : String) : Error := .cluster ("failed to read kubeconfig " ++ path)

def kubeconfigUnusable (path : String) : Error := .cluster ("failed to load kubeconfig " ++ path)

/-- Without a file there is nothing to connect with. -/
def noClusterAccess : Error := .cluster "failed to create client"

end Error

/-- A cluster and a user. -/
structure Kubeconfig.Context where
  cluster : String
  user : String
  deriving DecidableEq, Repr

structure Kubeconfig where
  /-- Clusters by name, each with its server. -/
  clusters : List (String × Option String) := []
  /-- Users by name, each with or without credentials. -/
  users : List (String × Option Unit) := []
  contexts : List (String × Option Kubeconfig.Context) := []
  current : Option String := none
  deriving DecidableEq, Repr, Inhabited

namespace Kubeconfig

/-- A named entry whose content stands under its own key, and may be missing. -/
def namedItem? {α : Type} (key : String) (content : Json → Option α) (j : Json) :
    Option (String × Option α) := do
  let r ← Record.open? ["name", key] j
  return (← r.require "name" Json.text?, ← r.optional key content)

def server (j : Json) : Option (Option String) := do
  let .obj _ := j | none
  (j.memberOrNull "server").nullOr? Json.text?

def anyObject : Json → Option Unit
  | .obj _ => some ()
  | _ => none

def context (j : Json) : Option Context := do
  let r ← Record.open? ["cluster", "user"] j
  return ⟨← r.require "cluster" Json.text?, ← r.require "user" Json.text?⟩

/-- Entries; none when they are null or absent. -/
def entries? {α : Type} (item : Json → Option α) (j : Json) (name : String) : Option (List α) :=
  ((j.memberOrNull name).nullOr? (Json.listOf? item)).map (·.getD [])

def ofJson? (j : Json) : Option Kubeconfig := do
  let .obj _ := j | none
  let clusters ← entries? (namedItem? "cluster" server) j "clusters"
  let users ← entries? (namedItem? "user" anyObject) j "users"
  return {
    clusters := clusters.map fun c => (c.1, c.2.join)
    users := users
    contexts := ← entries? (namedItem? "context" context) j "contexts"
    current := ← (j.memberOrNull "current-context").nullOr? Json.text? }

/-- The configuration that a text holds; a blank one holds nothing. -/
def read? (text : String) : Option Kubeconfig :=
  if Blank.trim text = "" then some {} else (Json.parse? text).bind ofJson?

/-- What is filed under a name. -/
def lookup {α : Type} (entries : List (String × α)) (name : String) : Option α :=
  (entries.find? (·.1 == name)).map (·.2)

/-- The server of the current context, if its context, cluster and user are all there. An empty
address is none. -/
def server? (k : Kubeconfig) : Option String := do
  let c ← (lookup k.contexts (← k.current)).join
  let address ← (lookup k.clusters c.cluster).join
  let () ← (lookup k.users c.user).join
  if address = "" then none else return address

/-- Connect with the file at a path, whose content is `none` if it is missing. Without a path there
is no access. The answer is the server. -/
def connect (file : Option (String × Option String)) : Except Error String :=
  match file with
  | none => .error .noClusterAccess
  | some (path, content) =>
    match content.bind read? with
    | none => .error (.kubeconfigUnreadable path)
    | some k => match k.server? with
      | none => .error (.kubeconfigUnusable path)
      | some server => .ok server

end Kubeconfig

end GpuCluster
