import GpuCluster.Text.Json

/-!
# Durations

`Duration` is a length of time, never negative: `ofSeconds`, `ofMillis`, `toNanos`, `inSeconds`.
-/

namespace GpuCluster

/-- A number as a double, rounded. -/
instance natCastFloat : NatCast Float := ⟨Nat.toFloat⟩

/-- A length of time. The nanoseconds are below one second. -/
structure Duration where
  seconds : Nat
  nanos : Nat := 0
  deriving DecidableEq, Repr, Inhabited

namespace Duration

def ofSeconds (n : Nat) : Duration := ⟨n, 0⟩

def ofMillis (n : Nat) : Duration := ⟨n / 1000, n % 1000 * 1000000⟩

/-- The length in nanoseconds, exactly. -/
def toNanos (d : Duration) : Nat := d.seconds * 1000000000 + d.nanos

/-- The length in milliseconds, rounded down. -/
def toMillis (d : Duration) : Nat := d.seconds * 1000 + d.nanos / 1000000

/-- The length in seconds, in any numbers that are added and divided: rounded in doubles, exact in
rational numbers. -/
def inSeconds {α : Type} [NatCast α] [Add α] [Div α] (d : Duration) : α :=
  d.seconds + d.nanos / (1000000000 : Nat)

def toJson (d : Duration) : Json :=
  .obj [("secs", .ofNat d.seconds), ("nanos", .ofNat d.nanos)]

@[simp] theorem toNanos_ofSeconds (n : Nat) : (ofSeconds n).toNanos = n * 1000000000 := by
  simp [ofSeconds, toNanos]

@[simp] theorem toNanos_ofMillis (n : Nat) : (ofMillis n).toNanos = n * 1000000 := by
  simp only [ofMillis, toNanos]
  omega

end Duration

end GpuCluster
