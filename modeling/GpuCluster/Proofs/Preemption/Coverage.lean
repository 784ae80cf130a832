import GpuCluster.Preemption.TierWeight
import GpuCluster.Proofs.Preemption.Victims

/-!
# How many GPUs become free

* `largest` : the largest number of GPUs that a job of a line holds; `toNat_headroom`;
* `Fills.covers` : a first part that stops short of the line holds more than what is asked for;
* `selectVictims_covers` : the selection by cumulated GPUs covers a request, exceeds it by one job
  at most and takes as much of the line as that allows;
* `Reaches`, `takeUntil_take` : the selection by tier never overflows and answers the shortest first
  part of the line that holds enough.
-/

namespace GpuCluster.Preemption

variable {js ks line : List Job} {j : Job}

theorem gpusOf_append (js ks : List Job) : gpusOf (js ++ ks) = gpusOf js + gpusOf ks := by
  rw [gpusOf, List.map_append, List.sum_append]
  rfl

theorem gpusOf_singleton (j : Job) : gpusOf [j] = j.requiredGpu.toNat := List.sum_singleton

theorem gpusOf_take_succ {n : Nat} (h : n < js.length) :
    gpusOf (js.take (n + 1)) = gpusOf (js.take n) + js[n].requiredGpu.toNat := by
  rw [← List.take_append_getElem h, gpusOf_append, gpusOf_singleton]

/-! ## The largest footprint -/

/-- The largest number of GPUs that a job of a line holds, zero for an empty line. -/
def largest (line : List Job) : Nat := ((line.map fun j => j.requiredGpu.toNat).max?).getD 0

theorem le_largest (h : j ∈ line) : j.requiredGpu.toNat ≤ largest line := by
  have hmem : j.requiredGpu.toNat ∈ line.map fun j => j.requiredGpu.toNat := List.mem_map_of_mem h
  unfold largest
  cases hmax : (line.map fun j => j.requiredGpu.toNat).max? with
  | none =>
    rw [List.max?_eq_none_iff] at hmax
    rw [hmax] at hmem
    exact absurd hmem List.not_mem_nil
  | some n => exact (List.max?_eq_some_iff.1 hmax).2 _ hmem

/-- What is left room for above a request is the largest footprint. -/
theorem toNat_headroom (line : List Job) : (headroom line).toNat = largest line := by
  have hfold : ∀ (xs : List UInt32) (x : UInt32),
      (xs.foldl max x).toNat = (xs.map UInt32.toNat).foldl max x.toNat := by
    intro xs
    induction xs with
    | nil => exact fun _ => rfl
    | cons y rest ih =>
      intro x
      rw [List.foldl_cons, ih, toNat_max, List.map_cons, List.foldl_cons]
  have hgpus : (line.map (·.requiredGpu)).map UInt32.toNat =
      line.map fun j => j.requiredGpu.toNat := List.map_map
  have hzero : (0 : UInt32).toNat = 0 := rfl
  rw [headroom, hfold, hgpus, hzero, List.foldl_max, Nat.zero_max]
  rfl

/-! ## Covering a request -/

/-- The first job that is left out holds no more than the largest footprint, so those before it hold
more than what is asked for. -/
theorem Fills.covers {requested n : Nat} (h : Fills (requested + largest js) js n)
    (hn : n < js.length) : requested < gpusOf (js.take n) := by
  have hnext : requested + largest js < gpusOf (js.take (n + 1)) := by
    by_contra hle
    have := h.longest (n + 1) hn (Nat.not_lt.1 hle)
    omega
  have hfoot : js[n].requiredGpu.toNat ≤ largest js := le_largest (List.getElem_mem hn)
  rw [gpusOf_take_succ hn] at hnext
  omega

/-- The jobs that go are a first part of the line. They hold no more GPUs than are asked for and the
largest footprint; if any job is left out they hold more than are asked for, so they cover the
request whenever the whole line does; and no longer part stays within the bound. The sums that are
formed, the one with the first job that is left out among them, are far from the end of their
range. -/
theorem selectVictims_covers (line : List Job) (requested : UInt32) :
    ∃ victims rest, selectVictims line requested = .ok victims ∧ line = victims ++ rest ∧
      gpusOf victims ≤ requested.toNat + largest line ∧
      (rest ≠ [] → requested.toNat < gpusOf victims) ∧
      (requested.toNat ≤ gpusOf line → requested.toNat ≤ gpusOf victims) ∧
      (∀ longer, longer <+: line → victims.length < longer.length →
        requested.toNat + largest line < gpusOf longer) ∧
      ∀ tried, tried <+: victims ++ rest.take 1 → gpusOf tried < 2 ^ 34 := by
  obtain ⟨n, hn, hfills⟩ := selectVictims_take line requested
  rw [toNat_headroom] at hfills
  have hwithin := hfills.within
  have hcovers : line.drop n ≠ [] → requested.toNat < gpusOf (line.take n) := by
    intro hrest
    exact hfills.covers (List.length_lt_of_drop_ne_nil hrest)
  refine ⟨line.take n, line.drop n, hn, (List.take_append_drop n line).symm, hwithin, hcovers,
    fun hall => ?_, fun longer hlonger hlength => ?_, fun tried htried => ?_⟩
  · by_cases hrest : line.drop n = []
    · rwa [List.take_of_length_le (List.drop_eq_nil_iff.1 hrest)]
    · exact Nat.le_of_lt (hcovers hrest)
  · rw [List.prefix_iff_eq_take.1 hlonger]
    by_contra hle
    have hlen := hlonger.length_le
    have := hfills.longest longer.length hlen (Nat.not_lt.1 hle)
    rw [List.length_take] at hlength
    omega
  · -- One more job adds at most the largest footprint once more.
    have hlargest : largest line < 2 ^ 32 := by
      rw [← toNat_headroom]
      exact (headroom line).toNat_lt
    have hnext : gpusOf ((line.drop n).take 1) ≤ largest line := by
      cases hdrop : line.drop n with
      | nil => exact Nat.zero_le _
      | cons j rest =>
        rw [List.take_succ_cons, List.take_zero, gpusOf_singleton]
        exact le_largest (List.mem_of_mem_drop (hdrop ▸ List.mem_cons_self))
    obtain ⟨others, hothers⟩ := htried
    have hsum := congrArg gpusOf hothers
    rw [gpusOf_append, gpusOf_append] at hsum
    have := requested.toNat_lt
    omega

/-! ## Reaching a number of GPUs -/

/-- The line up to `n` is its shortest first part that holds enough GPUs, or the whole line if none
does. -/
structure Reaches (needed : Nat) (line : List Job) (n : Nat) : Prop where
  le_length : n ≤ line.length
  shortest : ∀ m < n, gpusOf (line.take m) < needed
  enough : needed ≤ gpusOf (line.take n) ∨ n = line.length

/-- Fewer GPUs are needed than a sum of two numbers of GPUs can hold, so no sum overflows. -/
theorem takeUntil_take {needed : UInt64} (hneeded : needed.toNat < 2 ^ 32) (freed : UInt64)
    (line : List Job) : ∃ n, takeUntil needed freed line = .ok (line.take n) ∧
      Reaches (needed.toNat - freed.toNat) line n := by
  induction line generalizing freed with
  | nil => exact ⟨0, rfl, Nat.le_refl _, nofun, .inr rfl⟩
  | cons j rest ih =>
    rw [takeUntil]
    by_cases hle : needed ≤ freed
    · rw [UInt64.le_iff_toNat_le] at hle
      refine ⟨0, if_pos (UInt64.le_iff_toNat_le.2 hle), Nat.zero_le _, nofun, .inl ?_⟩
      rw [Nat.sub_eq_zero_of_le hle]
      exact Nat.zero_le _
    · have hgpu := j.requiredGpu.toNat_lt
      rw [UInt64.le_iff_toNat_le] at hle
      have hsum : Checked.addU64 freed j.requiredGpu.toUInt64 =
          .ok (freed + j.requiredGpu.toUInt64) := by
        rw [Checked.addU64_eq_ok_iff, UInt64.toNat_add, UInt32.toNat_toUInt64]
        exact Nat.mod_eq_of_lt (by omega)
      have hnat := Checked.addU64_eq_ok_iff.1 hsum
      rw [UInt32.toNat_toUInt64] at hnat
      obtain ⟨n, hn, hreaches⟩ := ih (freed + j.requiredGpu.toUInt64)
      refine ⟨n + 1, ?_, Nat.succ_le_succ hreaches.le_length, fun m hm => ?_, ?_⟩
      · rw [if_neg (by rwa [UInt64.le_iff_toNat_le]), hsum, List.take_succ_cons]
        simp only [bind, Except.bind, hn]
      · cases m with
        | zero =>
          change 0 < _
          omega
        | succ m =>
          have := hreaches.shortest m (Nat.lt_of_succ_lt_succ hm)
          rw [List.take_succ_cons, gpusOf_cons]
          omega
      · rw [List.take_succ_cons, gpusOf_cons, List.length_cons]
        rcases hreaches.enough with henough | hall
        · exact .inl (by omega)
        · exact .inr (by rw [hall])

end GpuCluster.Preemption
