import GpuCluster.Error

/-!
# Actions on a state

* `Action σ α` : an operation on a state `σ` that answers `α` or fails; what it wrote before
  failing stays written;
* `Action.attempt` : take a reported error as an answer, let a fault pass;
* `Action.outcome` : take either as an answer;
* `Lens` : a part of a state; `Action.zoom` runs an action on a part.
-/

namespace GpuCluster

/-- An operation on a state. A failure keeps the state reached so far. -/
abbrev Action (σ : Type) := EStateM Failure σ

namespace Action

variable {σ τ α : Type}

def fail (e : Error) : Action σ α := fun s => .error (.error e) s

/-- Break off. -/
def abort (f : Fault) : Action σ α := fun s => .error (.fault f) s

/-- Go on with a computed answer, or report its error. -/
def ofExcept : Except Error α → Action σ α
  | .ok a => pure a
  | .error e => fail e

/-- Go on with the result of bounded arithmetic, or break off. -/
def ofChecked : Except Fault α → Action σ α
  | .ok a => pure a
  | .error f => abort f

/-- Run `x` and take the error it reports, if any, as an answer. A fault is no answer. -/
def attempt (x : Action σ α) : Action σ (Except Error α) := fun s =>
  match x s with
  | .ok a s' => .ok (.ok a) s'
  | .error (.error e) s' => .ok (.error e) s'
  | .error (.fault f) s' => .error (.fault f) s'

/-- Run `x` and take however it ends as an answer. -/
def outcome (x : Action σ α) : Action σ (Except Failure α) := fun s =>
  match x s with
  | .ok a s' => .ok (.ok a) s'
  | .error f s' => .ok (.error f) s'

/-- Run `x` for its effect; an error it reports is dropped. -/
def tolerate (x : Action σ Unit) : Action σ Unit := do
  let _ ← attempt x

end Action

/-- A part `α` of a state `σ`. -/
structure Lens (σ α : Type) where
  get : σ → α
  set : α → σ → σ

namespace Lens

/-- The whole state as a part of itself. -/
def id {σ : Type} : Lens σ σ := ⟨fun s => s, fun t _ => t⟩

/-- A part of a part. -/
def comp {σ τ α : Type} (outer : Lens σ τ) (inner : Lens τ α) : Lens σ α where
  get s := inner.get (outer.get s)
  set a s := outer.set (inner.set a (outer.get s)) s

end Lens

namespace Action

variable {σ τ α : Type}

/-- Run an action on a part of the state. -/
def zoom (part : Lens σ τ) (x : Action τ α) : Action σ α := fun s =>
  match x (part.get s) with
  | .ok a t => .ok a (part.set t s)
  | .error f t => .error f (part.set t s)

def read (part : Lens σ α) : Action σ α := fun s => .ok (part.get s) s

def write (part : Lens σ α) (a : α) : Action σ Unit := fun s => .ok () (part.set a s)

def update (part : Lens σ α) (f : α → α) : Action σ Unit := fun s =>
  .ok () (part.set (f (part.get s)) s)

end Action

end GpuCluster
