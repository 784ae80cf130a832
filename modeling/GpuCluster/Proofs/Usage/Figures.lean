import GpuCluster.Proofs.Usage.Integral

/-!
# The memory figures of a summary

A sum of words that stops at the ends of its range may stop several times, at either end, so that
it need not be the nearest word to the exact sum. It is still as near to its start as the terms
allow, which is all that the average depends on.

* `Saturating.addI64_between`, `Saturating.foldl_addI64_between` : one addition moves the sum by at
  most the largest term up and the smallest one down, and so do any number of them;
* `Saturating.foldl_addI64_of_fits` : without a partial sum out of range the sum is exact;
* `toInt_peakMemory` : the peak is the largest figure, or zero;
* `toInt_average` : the division by the number of snapshots is exact up to rounding to zero;
* `summary_memory` : the peak and the average of any snapshots.
-/

namespace GpuCluster

namespace Saturating

variable {lo hi : Int}

theorem addI64_between (a x : Int64) (hlo : lo ≤ 0) (hhi : 0 ≤ hi)
    (hx : lo ≤ x.toInt ∧ x.toInt ≤ hi) :
    a.toInt + lo ≤ (addI64 a x).toInt ∧ (addI64 a x).toInt ≤ a.toInt + hi := by
  have ha := Checked.fitsI64_toInt a
  unfold Checked.FitsI64 at ha
  -- If the sum stops at an end of its range, this end lies between `a` and the exact sum.
  rw [toInt_addI64]
  omega

/-- Neither end of the range takes the sum further from its start than the terms do. -/
theorem foldl_addI64_between (xs : List Int64) (a : Int64) (hlo : lo ≤ 0) (hhi : 0 ≤ hi)
    (h : ∀ x ∈ xs, lo ≤ x.toInt ∧ x.toInt ≤ hi) :
    a.toInt + xs.length * lo ≤ (xs.foldl addI64 a).toInt ∧
      (xs.foldl addI64 a).toInt ≤ a.toInt + xs.length * hi := by
  induction xs generalizing a with
  | nil => simp
  | cons x rest ih =>
    obtain ⟨hdown, hup⟩ := addI64_between a x hlo hhi (h x List.mem_cons_self)
    obtain ⟨ihdown, ihup⟩ := ih (addI64 a x) fun y hy => h y (List.mem_cons_of_mem x hy)
    have hlength : ∀ b : Int, ((x :: rest).length : Int) * b = rest.length * b + b := by
      intro b
      rw [List.length_cons]
      push_cast
      ring
    rw [List.foldl_cons, hlength, hlength]
    omega

theorem foldl_addI64_of_fits (xs : List Int64) (a : Int64)
    (h : ∀ n ≤ xs.length, Checked.FitsI64 (a.toInt + ((xs.map Int64.toInt).take n).sum)) :
    (xs.foldl addI64 a).toInt = a.toInt + (xs.map Int64.toInt).sum := by
  induction xs generalizing a with
  | nil => simp
  | cons x rest ih =>
    have hfirst : (addI64 a x).toInt = a.toInt + x.toInt := by
      have hone := h 1 (by simp)
      simp only [Checked.FitsI64, List.map_cons, List.take_succ_cons, List.take_zero, List.sum_cons,
        List.sum_nil, add_zero] at hone
      rw [toInt_addI64]
      omega
    have hrest := ih (addI64 a x) fun n hn => by
      have hnext := h (n + 1) (by simpa using hn)
      rw [List.map_cons, List.take_succ_cons, List.sum_cons, ← add_assoc] at hnext
      rw [hfirst]
      exact hnext
    rw [List.foldl_cons, hrest, hfirst, List.map_cons, List.sum_cons, add_assoc]

end Saturating

namespace Usage

variable {rows : List Snapshot}

/-- The memory figures of some snapshots. -/
def memoryFigures (rows : List Snapshot) : List Int := rows.map (·.memoryBytes.toInt)

theorem memorySum_eq (rows : List Snapshot) :
    memorySum rows = (rows.map (·.memoryBytes)).foldl Saturating.addI64 0 := by
  rw [memorySum, List.foldl_map]

theorem memoryFigures_eq (rows : List Snapshot) :
    memoryFigures rows = (rows.map (·.memoryBytes)).map Int64.toInt := by
  rw [memoryFigures, List.map_map]
  rfl

/-- The peak is the largest figure, or zero. -/
theorem toInt_peakMemory {largest : Int} (h : (memoryFigures rows).max? = some largest) :
    (peakMemory rows).toInt = max 0 largest := by
  have hfold : ∀ peak : Int64, (rows.foldl (fun peak s => max peak s.memoryBytes) peak).toInt =
      (memoryFigures rows).foldl max peak.toInt := by
    intro peak
    rw [memoryFigures, List.foldl_map]
    exact (List.foldl_hom Int64.toInt fun peak s => (toInt_max peak s.memoryBytes).symm).symm
  have hmax : ((0 : Int) :: memoryFigures rows).max? =
      some ((memoryFigures rows).foldl max 0) := List.max?_cons'
  rw [List.max?_cons, h, Option.some.injEq] at hmax
  rw [peakMemory, hfold]
  exact hmax.symm

/-- The clamped sum of the figures lies between multiples of the smallest and the largest. -/
theorem memorySum_between {smallest largest : Int}
    (hmin : (memoryFigures rows).min? = some smallest)
    (hmax : (memoryFigures rows).max? = some largest) :
    rows.length * min 0 smallest ≤ (memorySum rows).toInt ∧
      (memorySum rows).toInt ≤ rows.length * max 0 largest := by
  have hwords : ∀ x ∈ rows.map (·.memoryBytes),
      min 0 smallest ≤ x.toInt ∧ x.toInt ≤ max 0 largest := by
    intro x hx
    have hfigure : x.toInt ∈ memoryFigures rows := by
      rw [memoryFigures_eq]
      exact List.mem_map_of_mem hx
    have := (List.min?_eq_some_iff.1 hmin).2 _ hfigure
    have := (List.max?_eq_some_iff.1 hmax).2 _ hfigure
    omega
  have hsum := Saturating.foldl_addI64_between _ 0 (by omega) (by omega) hwords
  rw [← memorySum_eq, List.length_map] at hsum
  simpa using hsum

/-- The number of snapshots is a positive word, and the average is rounded to zero. -/
theorem toInt_average (hne : rows ≠ []) (hlength : rows.length < 2 ^ 63) :
    (Int64.ofNat rows.length).toInt = rows.length ∧
      (memorySum rows / Int64.ofNat rows.length).toInt =
        (memorySum rows).toInt.tdiv rows.length := by
  have hcount : (Int64.ofNat rows.length).toInt = rows.length := Int64.toInt_ofNat_of_lt hlength
  have hpos := List.length_pos_of_ne_nil hne
  have hother : Int64.ofNat rows.length ≠ -1 := by
    intro heq
    rw [heq, show (-1 : Int64).toInt = -1 by decide] at hcount
    omega
  refine ⟨hcount, ?_⟩
  rw [Int64.toInt_div_of_ne_right _ _ hother, hcount]

theorem tdiv_between {s n lo hi : Int} (hn : 0 < n) (hlo : n * lo ≤ s) (hhi : s ≤ n * hi) :
    lo ≤ s.tdiv n ∧ s.tdiv n ≤ hi := by
  have hdown := Int.tdiv_le_tdiv hn hlo
  have hup := Int.tdiv_le_tdiv hn hhi
  rw [Int.mul_tdiv_cancel_left _ (ne_of_gt hn)] at hdown hup
  exact ⟨hdown, hup⟩

/-- The memory figures of a summary, for any figures and however often their sum stops at an end of
its range. The number of snapshots is below the largest signed word, as that of a list in memory. -/
theorem summary_memory (hne : rows ≠ []) (hkept : ∀ s ∈ rows, s.timestamp.isKept = true)
    (hlength : rows.length < 2 ^ 63) (id : JobId) (now : Instant) :
    ∃ summary smallest largest, summarize id rows now = .ok (some summary) ∧
      (memoryFigures rows).min? = some smallest ∧ (memoryFigures rows).max? = some largest ∧
      summary.peakMemoryBytes.toInt = max 0 largest ∧
      min 0 smallest ≤ summary.averageMemoryBytes.toInt ∧
      summary.averageMemoryBytes.toInt ≤ summary.peakMemoryBytes.toInt ∧
      ((∀ n ≤ rows.length, Checked.FitsI64 ((memoryFigures rows).take n).sum) →
        summary.averageMemoryBytes.toInt = (memoryFigures rows).sum.tdiv rows.length) ∧
      0 < rows.length ∧ (Int64.ofNat rows.length).toInt = rows.length ∧
      summary.averageMemoryBytes.toInt = (memorySum rows).toInt.tdiv rows.length := by
  obtain ⟨usual, -, hbill, -⟩ := billed_ok hkept
  have hpos := List.length_pos_of_ne_nil hne
  have hfigures : memoryFigures rows ≠ [] := by
    rw [memoryFigures, ne_eq, List.map_eq_nil_iff]
    exact hne
  obtain ⟨smallest, hmin⟩ := Option.isSome_iff_exists.1 (List.isSome_min?_iff.2 hfigures)
  obtain ⟨largest, hmax⟩ := Option.isSome_iff_exists.1 (List.isSome_max?_iff.2 hfigures)
  obtain ⟨hcount, haverage⟩ := toInt_average hne hlength
  obtain ⟨hlo, hhi⟩ := memorySum_between hmin hmax
  obtain ⟨hdown, hup⟩ := tdiv_between (by omega) hlo hhi
  refine ⟨_, smallest, largest, summarize_of_billed hne hbill id now, hmin, hmax,
    toInt_peakMemory hmax, ?_, ?_, fun hfits => ?_, hpos, hcount, haverage⟩
  · rw [haverage]
    exact hdown
  · rw [haverage, toInt_peakMemory hmax]
    exact hup
  · have hexact := Saturating.foldl_addI64_of_fits (rows.map (·.memoryBytes)) 0 fun n hn => by
      rw [List.length_map] at hn
      rw [← memoryFigures_eq]
      simpa using hfits n hn
    rw [← memorySum_eq, ← memoryFigures_eq] at hexact
    rw [haverage, hexact]
    simp

/-- Two figures at the upper end of the range, and one at the lower end. -/
def extremeSnapshots : List Snapshot :=
  [.maxValue, .maxValue, .minValue].map fun bytes =>
    { gpuSnapshot ⟨0, 0⟩ 0 with memoryBytes := bytes }

/-- The sum stops at the upper end once, and the average is zero. -/
theorem summary_memory_extreme : (∀ s ∈ extremeSnapshots, s.timestamp.isKept = true) ∧
    ∃ summary, summarize ⟨1#128⟩ extremeSnapshots ⟨0, 0⟩ = .ok (some summary) ∧
      summary.peakMemoryBytes = .maxValue ∧ summary.averageMemoryBytes = 0 := by
  have hkept : ∀ s ∈ extremeSnapshots, s.timestamp.isKept = true := by decide
  obtain ⟨summary, smallest, largest, hsummary, -, hmax, hpeak, -, -, -, -, -, haverage⟩ :=
    summary_memory (List.cons_ne_nil _ _ : extremeSnapshots ≠ []) hkept (by decide) ⟨1#128⟩ ⟨0, 0⟩
  have hlargest : (memoryFigures extremeSnapshots).max? = some Int64.maxValue.toInt := by decide
  obtain rfl := Option.some.inj (hlargest.symm.trans hmax)
  refine ⟨hkept, summary, hsummary, ?_, ?_⟩
  · rw [← Int64.toInt_inj, hpeak]
    decide
  · rw [← Int64.toInt_inj, haverage]
    decide

end Usage

end GpuCluster
