import GpuCluster.Cluster.Pod

/-!
# Listing pods over the cluster's interface

* `Listing.Request` : what is asked;
* `Listing.Answer` : the status and the body that come back;
* `Answer.listed?` : the descriptions that an answer brings; a namespace that is not found has none;
* `Listing.podsOf` : the pods of some descriptions, `Listing.pods` : those of an answer.
-/

namespace GpuCluster

namespace Error

/-- The pods could not be listed. -/
def listingFailed (podNamespace selector : String) : Error :=
  .cluster ("list pods in " ++ podNamespace ++ " (" ++ selector ++ ")")

end Error

namespace Listing

/-- A listing of the pods of a namespace that a label selector picks. -/
structure Request where
  podNamespace : String
  selector : String
  deriving DecidableEq, Repr

def Request.path (r : Request) : String := "/api/v1/namespaces/" ++ r.podNamespace ++ "/pods"

def Request.parameters (r : Request) : List (String × String) := [("labelSelector", r.selector)]

/-- What comes back: a status and a body. -/
structure Answer where
  status : Nat
  body : Json

namespace Answer

/-- The status says that the request failed. -/
def isFailure (a : Answer) : Bool := 400 ≤ a.status && a.status < 600

/-- The code of a body that describes a failure. -/
def bodyCode? (body : Json) : Option Nat := do
  let r ← Record.open? ["status", "message", "reason", "code"] body
  let _ ← r.require "status" Json.text?
  let _ ← r.orDefault "message" "" Json.text?
  let _ ← r.orDefault "reason" "" Json.text?
  return (← r.require "code" (Json.intWithin? 0 65535)).toNat

/-- The code of a failure: that of the body, if it has one, or else the status. -/
def failureCode (a : Answer) : Nat := (bodyCode? a.body).getD a.status

/-- The facts about a list as a whole. -/
def checkMetadata : Json → Option Unit
  | .obj ms => do
    let j := Json.obj ms
    let _ ← (j.memberOrNull "continue").nullOr? Json.text?
    let _ ← (j.memberOrNull "remainingItemCount").nullOr? Json.i64?
    let _ ← (j.memberOrNull "resourceVersion").nullOr? Json.text?
    let _ ← (j.memberOrNull "selfLink").nullOr? Json.text?
    return ()
  | _ => none

/-- The descriptions in a list of pods. -/
def manifests? (body : Json) : Option (List Pod.Manifest) := do
  let r ← Record.open? ["metadata", "items"] body
  let () ← r.orDefault "metadata" () checkMetadata
  let items ← r.require "items" (Json.nullOr? (Json.listOf? Pod.Manifest.read?))
  return items.getD []

/-- The code of something that is not there. -/
def notFoundCode : Nat := 404

/-- The descriptions that an answer brings. A namespace that is not found has none, and an answer
that fails or cannot be read brings nothing. -/
def listed? (a : Answer) : Option (List Pod.Manifest) :=
  if a.isFailure then if a.failureCode = notFoundCode then some [] else none
  else manifests? a.body

end Answer

/-- The pods of the descriptions that are listed, if they are. -/
def podsOf {σ : Type} (r : Request) : Option (List Pod.Manifest) → Action σ (List Pod)
  | none => Action.fail (.listingFailed r.podNamespace r.selector)
  | some manifests => Action.ofChecked (manifests.mapM Pod.Manifest.pod)

def pods {σ : Type} (r : Request) (a : Answer) : Action σ (List Pod) := podsOf r a.listed?

end Listing

end GpuCluster
