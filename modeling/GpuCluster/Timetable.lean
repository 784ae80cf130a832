import GpuCluster.Action

/-!
# Timetables

A timer ticks at every multiple of its period, the first time after one period.

* `Timetable.checkPeriod` : whether a timer can be set;
* `Timetable.ticks` : the ticks before a horizon;
* `Timetable.merge` : the ticks of two timers in order of time;
* `Timetable.run` : do what is due, tick after tick, until told to stop.

Times are in nanoseconds since the timers were set.
-/

namespace GpuCluster.Timetable

/-- The nanoseconds since the start of the machine that its clock can show: it counts the seconds in
64 bits, one of which is the sign. -/
def clockLimit : Nat := 9223372036854775808 * 1000000000

/-- A timer can be set while the clock shows `uptime`: the clock reaches its first tick, and it has
a period. -/
def checkPeriod (uptime period : Nat) : Except Fault Unit :=
  if clockLimit ≤ uptime + period then .error .tickOutOfRange
  else if period = 0 then .error .zeroPeriod
  else .ok ()

/-- The multiples of a period that lie before a horizon, without zero. -/
def ticks (period horizon : Nat) : List Nat :=
  (List.range ((horizon - 1) / period)).map fun i => (i + 1) * period

/-- A timer ticks at the multiples of its period that lie after the start. -/
theorem mem_ticks {period horizon t : Nat} (h : 0 < period) :
    t ∈ ticks period horizon ↔ 0 < t ∧ period ∣ t ∧ t < horizon := by
  simp only [ticks, List.mem_map, List.mem_range]
  constructor
  · rintro ⟨i, hi, rfl⟩
    have := (Nat.le_div_iff_mul_le h).1 hi
    have hp : 0 < (i + 1) * period := Nat.mul_pos (Nat.succ_pos i) h
    simp only [Nat.succ_eq_add_one] at this
    exact ⟨hp, Nat.dvd_mul_left .., by omega⟩
  · rintro ⟨ht, ⟨k, rfl⟩, hh⟩
    obtain ⟨i, rfl⟩ : ∃ i, k = i + 1 := ⟨k - 1, by
      have : k ≠ 0 := fun hk => by simp [hk] at ht
      omega⟩
    exact ⟨i, (Nat.le_div_iff_mul_le h).2 (by rw [Nat.succ_eq_add_one, Nat.mul_comm]; omega),
      Nat.mul_comm ..⟩

/-- What is due at each tick of a timer. -/
def every {α : Type} (period horizon : Nat) (due : α) : List (Nat × α) :=
  (ticks period horizon).map fun t => (t, due)

/-- Two timetables as one; at the same time the first one's turn comes first. -/
def merge {α : Type} (a b : List (Nat × α)) : List (Nat × α) :=
  List.merge a b fun x y => decide (x.1 ≤ y.1)

variable {σ α : Type}

/-- Do what is due at each time of a timetable. When a time has come it is noted, and nothing is
done any more once `stopped` says so. -/
def run (elapsed : Lens σ Nat) (stopped : Action σ Bool) (turn : α → Action σ Unit) :
    List (Nat × α) → Action σ Unit
  | [] => return
  | (time, due) :: rest => do
    Action.write elapsed time
    if ← stopped then return
    else do
      turn due
      run elapsed stopped turn rest

end GpuCluster.Timetable
