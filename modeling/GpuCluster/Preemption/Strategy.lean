import GpuCluster.Action
import GpuCluster.Preemption.Decision
import GpuCluster.Text.Bindings

/-!
# Strategies

* `Preemption.Strategy σ` : a named way to choose victims over a state `σ`;
* `Preemption.Strategies` : the known strategies by name and the active one; the first one
  registered becomes active, and only known ones can be switched to;
* `Strategies.decide` : the decision of the active strategy.
-/

namespace GpuCluster.Preemption

structure Strategy (σ : Type) where
  name : String
  decide : Requirement → Action σ Decision

/-- The known strategies and the name of the active one. -/
structure Strategies (α : Type) where
  known : Bindings α := ∅
  active : Option String := none
  deriving Inhabited

namespace Strategies

variable {α β σ : Type}

def empty : Strategies α := {}

/-- Make a strategy known under a name, in place of one of that name. -/
def register (s : Strategies α) (name : String) (x : α) : Strategies α :=
  { known := s.known.set name x, active := s.active.or (some name) }

/-- Switch to a known strategy. -/
def activate (s : Strategies α) (name : String) : Except Error (Strategies α) :=
  match s.known.get? name with
  | some _ => .ok { s with active := some name }
  | none => .error (.strategyNotFound name)

/-- The known names in order. -/
def names (s : Strategies α) : List String := s.known.names.mergeSort fun a b => a ≤ b

/-- Apply a function to all that is known. -/
def map (f : α → β) (s : Strategies α) : Strategies β :=
  { known := ⟨s.known.entries.map fun e => (e.1, f e.2)⟩, active := s.active }

def current (s : Strategies α) : Except Error α :=
  match s.active with
  | none => .error (.strategyNotFound "no active strategy")
  | some name => match s.known.get? name with
    | some x => .ok x
    | none => .error (.strategyNotFound name)

def decide (s : Strategies (Strategy σ)) (q : Requirement) : Action σ Decision := do
  (← Action.ofExcept s.current).decide q

end Strategies

end GpuCluster.Preemption
