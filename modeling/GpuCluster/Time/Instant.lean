import GpuCluster.Error
import GpuCluster.Time.Date
import GpuCluster.Time.Duration

/-!
# Instants

`Instant` is a point in time: whole seconds since 1970-01-01 and nanoseconds. A leap second counts
as the second before it with a billion nanoseconds more.

* `Instant.le_def` : instants are ordered by seconds, then nanoseconds;
* `Instant.minus` : go back by a duration; a fault before the first date that is kept;
* `Duration.asAge` : the durations that can be subtracted at all.
-/

namespace GpuCluster

structure Instant where
  /-- Seconds since 1970-01-01, rounded down. -/
  seconds : Int
  nanos : Nat
  deriving DecidableEq, Repr, Inhabited

namespace Instant

instance : LE Instant where
  le a b := a.seconds < b.seconds ∨ (a.seconds = b.seconds ∧ a.nanos ≤ b.nanos)

instance : LT Instant where
  lt a b := a.seconds < b.seconds ∨ (a.seconds = b.seconds ∧ a.nanos < b.nanos)

theorem le_def (a b : Instant) :
    a ≤ b ↔ a.seconds < b.seconds ∨ (a.seconds = b.seconds ∧ a.nanos ≤ b.nanos) := Iff.rfl

theorem lt_def (a b : Instant) :
    a < b ↔ a.seconds < b.seconds ∨ (a.seconds = b.seconds ∧ a.nanos < b.nanos) := Iff.rfl

theorem not_le {a b : Instant} : ¬a ≤ b ↔ b < a := by
  rw [le_def, lt_def]
  omega

theorem eq_of_parts {a b : Instant} (hs : a.seconds = b.seconds) (hn : a.nanos = b.nanos) :
    a = b := by
  cases a
  cases b
  cases hs
  cases hn
  rfl

theorem le_refl (a : Instant) : a ≤ a := (le_def a a).2 (.inr ⟨rfl, Nat.le_refl _⟩)

instance (a b : Instant) : Decidable (a ≤ b) := decidable_of_iff' _ (le_def a b)

instance (a b : Instant) : Decidable (a < b) := decidable_of_iff' _ (lt_def a b)

def compare (a b : Instant) : Ordering :=
  if a < b then .lt else if b < a then .gt else .eq

def earliest (a b : Instant) : Instant := if b < a then b else a

def latest (a b : Instant) : Instant := if a ≤ b then b else a

/-- The first instant of the first year that dates are kept for. -/
def first : Instant := ⟨(Date.mk Date.firstYear 1 1).toDays * 86400, 0⟩

/-- The first second after the last year that dates are kept for. -/
def pastLast : Int := (Date.mk (Date.lastYear + 1) 1 1).toDays * 86400

/-- The date of the instant is one that dates are kept for. -/
def isKept (t : Instant) : Bool := first.seconds ≤ t.seconds && t.seconds < pastLast

def minus (t : Instant) (d : Duration) : Except Fault Instant :=
  let back : Instant :=
    if d.nanos ≤ t.nanos then ⟨t.seconds - d.seconds, t.nanos - d.nanos⟩
    else ⟨t.seconds - d.seconds - 1, t.nanos + 1000000000 - d.nanos⟩
  if first ≤ back then .ok back else .error .dateOutOfRange

end Instant

/-- The longest span in seconds that a signed 64-bit count of milliseconds holds. -/
def Duration.longestAge : Nat := 9223372036854775

/-- The duration as an age, if it is not too long for one. -/
def Duration.asAge (d : Duration) : Except Error Duration :=
  if d.seconds < longestAge ∨ (d.seconds = longestAge ∧ d.nanos ≤ 807000000) then .ok d
  else .error (.configuration
    "invalid retention: Source duration value is out of range for the target type")

end GpuCluster
