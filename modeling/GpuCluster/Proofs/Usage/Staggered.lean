import Mathlib.Algebra.BigOperators.Fin
import Mathlib.Data.Fintype.BigOperators
import Mathlib.Data.List.FinRange
import Mathlib.Order.Monotone.Basic
import GpuCluster.Proofs.Usage.Credit

/-!
# Pods that are sampled one after another

A cycle samples the pods of a job one after another, so each pod has its delay after the start of
the cycle. A second with samples is billed until the next one, whichever pod that samples.

* `Stagger` : the pods, the cycles and the delays; `Stagger.Sampling` : one GPU per pod;
* `Stagger.credit`, `Stagger.lost` : what a sample is billed for, and what is missing to a cycle;
* `Sampling.nextSecond_sample` : the next second after a sample;
* `staggered_total` : the exact bill, and when it covers the span of every GPU.
-/

namespace GpuCluster.Usage

/-- Pods that are sampled in every cycle, each with its own delay, in the order of the delays. -/
structure Stagger where
  pods : Nat
  cycles : Nat
  period : Nat
  start : Instant
  delay : Fin pods → Nat
  somePod : 0 < pods
  twoCycles : 2 ≤ cycles
  ordered : ∀ i j, i ≤ j → delay i ≤ delay j
  withinPeriod : ∀ j, delay j < period

namespace Stagger

variable (s : Stagger)

def first : Fin s.pods := ⟨0, s.somePod⟩

def last : Fin s.pods := ⟨s.pods - 1, Nat.sub_lt s.somePod Nat.one_pos⟩

/-- When a pod is sampled in a cycle. -/
def time (n : Fin s.cycles) (j : Fin s.pods) : Instant :=
  { s.start with seconds := s.start.seconds + n * s.period + s.delay j }

/-- No pod is sampled later in a cycle. -/
def IsLast (j : Fin s.pods) : Prop := ∀ k, s.delay k ≤ s.delay j

instance (j : Fin s.pods) : Decidable (s.IsLast j) :=
  inferInstanceAs (Decidable (∀ k, s.delay k ≤ s.delay j))

/-- The delay of the next sampled second, counted from the start of the same cycle. -/
def next (j : Fin s.pods) : Nat :=
  (((List.finRange s.pods).map s.delay).filter (s.delay j < ·)).min?.getD
    (s.period + s.delay s.first)

/-- What the sample of a pod is billed for, if another cycle follows. -/
def credit (j : Fin s.pods) : Nat := s.next j - s.delay j

/-- What is missing in it to the whole cycle. -/
def lost (j : Fin s.pods) : Nat := s.period - s.credit j

/-- What the last sample of a pod is billed for. -/
def final (usual : Duration) (j : Fin s.pods) : ℚ := if s.IsLast j then usual.exact else s.credit j

theorem delay_first_le (j : Fin s.pods) : s.delay s.first ≤ s.delay j :=
  s.ordered _ _ (Fin.le_def.2 (Nat.zero_le _))

/-- The next second is that of a later pod, or it belongs to the next cycle. -/
theorem next_cases (j : Fin s.pods) :
    (¬ s.IsLast j ∧ ∃ k, s.next j = s.delay k ∧ s.delay j < s.delay k ∧
      ∀ i, s.delay j < s.delay i → s.delay k ≤ s.delay i) ∨
    (s.IsLast j ∧ s.next j = s.period + s.delay s.first) := by
  unfold next
  cases hm : (((List.finRange s.pods).map s.delay).filter (s.delay j < ·)).min? with
  | none =>
    refine .inr ⟨fun k => ?_, rfl⟩
    rw [List.min?_eq_none_iff, List.filter_eq_nil_iff] at hm
    have := hm _ (List.mem_map_of_mem (List.mem_finRange k))
    simpa using this
  | some d =>
    rw [List.min?_eq_some_iff] at hm
    obtain ⟨hd, hmin⟩ := hm
    obtain ⟨hmem, hlt⟩ := List.mem_filter.1 hd
    obtain ⟨k, -, rfl⟩ := List.mem_map.1 hmem
    have hjk : s.delay j < s.delay k := of_decide_eq_true hlt
    refine .inl ⟨fun hlast => absurd (hlast k) (Nat.not_le.2 hjk), k, rfl, hjk, fun i hi => ?_⟩
    apply hmin
    exact List.mem_filter.2 ⟨List.mem_map_of_mem (List.mem_finRange i), decide_eq_true hi⟩

theorem delay_lt_next (j : Fin s.pods) : s.delay j < s.next j := by
  have := s.withinPeriod j
  rcases s.next_cases j with ⟨-, k, hk, hlt, -⟩ | ⟨-, hk⟩
  · omega
  · omega

theorem next_le (j : Fin s.pods) : s.next j ≤ s.delay j + s.period := by
  have := s.delay_first_le j
  rcases s.next_cases j with ⟨-, k, hk, -, -⟩ | ⟨-, hk⟩
  · have := s.withinPeriod k
    omega
  · omega

theorem credit_pos (j : Fin s.pods) : 0 < s.credit j := by
  have := s.delay_lt_next j
  unfold credit
  omega

theorem credit_add_lost (j : Fin s.pods) : s.credit j + s.lost j = s.period := by
  have := s.next_le j
  unfold lost credit
  omega

theorem sum_credit_add_lost :
    ∑ j, (s.credit j : ℚ) + ∑ j, (s.lost j : ℚ) = s.pods * s.period := by
  rw [← Finset.sum_add_distrib]
  have hone : ∀ j ∈ Finset.univ, (s.credit j : ℚ) + s.lost j = s.period := by
    intro j _
    exact_mod_cast s.credit_add_lost j
  rw [Finset.sum_congr rfl hone, Finset.sum_const, Finset.card_univ, Fintype.card_fin, nsmul_eq_mul]

/-- Pods that share their second are billed for whole cycles. -/
theorem credit_of_same (h : ∀ i j, s.delay i = s.delay j) (j : Fin s.pods) :
    s.IsLast j ∧ s.credit j = s.period := by
  have hlast : s.IsLast j := fun k => le_of_eq (h k j)
  obtain ⟨-, hnext⟩ := (s.next_cases j).resolve_left fun hk => hk.1 hlast
  refine ⟨hlast, ?_⟩
  rw [credit, hnext, h j s.first, Nat.add_sub_cancel]

/-- One snapshot of one GPU of each pod in each cycle; no two pods share a GPU. -/
structure Sampling where
  sample : Fin s.cycles → Fin s.pods → Snapshot
  key : Fin s.pods → String
  timestamp_eq : ∀ n j, (sample n j).timestamp = s.time n j
  gpuKey_eq : ∀ n j, (sample n j).gpuKey = key j
  distinct : ∀ i j, key i = key j → i = j
  kept : ∀ n j, (s.time n j).isKept = true

end Stagger

namespace Stagger.Sampling

variable {s : Stagger} (x : s.Sampling) {rows : List Snapshot}

/-- All snapshots. -/
def samples : List Snapshot :=
  (List.finRange s.cycles).flatMap fun n => (List.finRange s.pods).map (x.sample n)

theorem mem_samples {r : Snapshot} : r ∈ x.samples ↔ ∃ n j, r = x.sample n j := by
  simp only [samples, List.mem_flatMap, List.mem_map, List.mem_finRange, true_and, eq_comm]

theorem mem_seconds {c : Int} : c ∈ x.samples.map (·.timestamp.seconds) ↔
    ∃ (n : Fin s.cycles) (j : Fin s.pods), c = s.start.seconds + n * s.period + s.delay j := by
  rw [List.mem_map]
  constructor
  · rintro ⟨r, hr, rfl⟩
    obtain ⟨n, j, rfl⟩ := x.mem_samples.1 hr
    refine ⟨n, j, ?_⟩
    rw [x.timestamp_eq]
    rfl
  · rintro ⟨n, j, rfl⟩
    refine ⟨x.sample n j, x.mem_samples.2 ⟨n, j, rfl⟩, ?_⟩
    rw [x.timestamp_eq]
    rfl

theorem sum_samples (f : Snapshot → ℚ) : (x.samples.map f).sum = ∑ n, ∑ j, f (x.sample n j) := by
  rw [samples, List.map_flatMap, List.flatMap_def, List.sum_flatten, List.map_map, Fin.sum_univ_def]
  congr 1
  apply List.map_congr_left
  intro n _
  rw [Function.comp_apply, List.map_map, Fin.sum_univ_def]
  rfl

/-- The time of a sample tells its cycle. -/
theorem cycle_eq {n m : Fin s.cycles} {j : Fin s.pods}
    (h : (s.time n j).seconds = (s.time m j).seconds) : n = m := by
  have hperiod : 0 < s.period := Nat.lt_of_le_of_lt (Nat.zero_le _) (s.withinPeriod j)
  simp only [time] at h
  have hmul : (n : Nat) * s.period = m * s.period := by
    have : ((n : Nat) * s.period : Int) = m * s.period := by omega
    exact_mod_cast this
  exact Fin.ext (Nat.eq_of_mul_eq_mul_right hperiod hmul)

theorem nodup_samples : (x.samples.map fun r => (r.timestamp.seconds, r.gpuKey)).Nodup := by
  have hsample : ∀ n j, ((x.sample n j).timestamp.seconds, (x.sample n j).gpuKey) =
      ((s.time n j).seconds, x.key j) := by
    intro n j
    rw [x.timestamp_eq, x.gpuKey_eq]
  have hrows : (x.samples.map fun r => (r.timestamp.seconds, r.gpuKey)) =
      (List.finRange s.cycles).flatMap fun n =>
        (List.finRange s.pods).map fun j => ((s.time n j).seconds, x.key j) := by
    rw [samples, List.map_flatMap]
    congr 1
    funext n
    rw [List.map_map]
    exact List.map_congr_left fun j _ => hsample n j
  rw [hrows]
  refine List.nodup_flatMap.2 ⟨fun n _ => ?_, (List.nodup_finRange _).imp fun {n m} hne => ?_⟩
  · exact (List.nodup_finRange _).map fun i j heq => x.distinct i j (Prod.mk.inj heq).2
  · intro p hp hq
    obtain ⟨i, -, rfl⟩ := List.mem_map.1 hp
    obtain ⟨j, -, heq⟩ := List.mem_map.1 hq
    obtain ⟨hsec, hkey⟩ := Prod.mk.inj heq
    obtain rfl := x.distinct _ _ hkey
    exact hne (cycle_eq hsec).symm

/-- A later cycle starts a whole period later. -/
theorem cycle_le {n m : Nat} (h : n < m) (period : Nat) :
    (n * period : Int) + period ≤ m * period := by
  have hmul : (n + 1) * period ≤ m * period := Nat.mul_le_mul_right _ h
  rw [Nat.succ_mul] at hmul
  exact_mod_cast hmul

theorem nextSecond_of_not_last {j : Fin s.pods} (hj : ¬ s.IsLast j) (n : Fin s.cycles) :
    nextSecond (x.samples.map (·.timestamp.seconds)) (s.time n j).seconds =
      some (s.start.seconds + n * s.period + s.next j) := by
  obtain ⟨-, k, hk, hlt, hmin⟩ := (s.next_cases j).resolve_right fun h => hj h.1
  simp only [time]
  rw [hk, nextSecond_eq_some_iff]
  refine ⟨x.mem_seconds.2 ⟨n, k, rfl⟩, by omega, fun c hc hjc => ?_⟩
  obtain ⟨m, i, rfl⟩ := x.mem_seconds.1 hc
  have hi := s.withinPeriod i
  have hperiod := s.withinPeriod k
  rcases Nat.lt_trichotomy m n with hm | hm | hm
  · have := cycle_le hm s.period
    omega
  · rw [hm] at hjc ⊢
    have := hmin i (by omega)
    omega
  · have := cycle_le hm s.period
    omega

theorem nextSecond_of_last {j : Fin s.pods} (hj : s.IsLast j) {n : Fin s.cycles}
    (hn : (n : Nat) + 1 < s.cycles) :
    nextSecond (x.samples.map (·.timestamp.seconds)) (s.time n j).seconds =
      some (s.start.seconds + n * s.period + s.next j) := by
  obtain ⟨-, hnext⟩ := (s.next_cases j).resolve_left fun h => h.1 hj
  have hperiod := s.withinPeriod j
  simp only [time]
  rw [hnext, nextSecond_eq_some_iff]
  refine ⟨x.mem_seconds.2 ⟨⟨n + 1, hn⟩, s.first, ?_⟩, by omega, fun c hc hjc => ?_⟩
  · push_cast
    ring
  · obtain ⟨m, i, rfl⟩ := x.mem_seconds.1 hc
    have hi := s.withinPeriod i
    have hij := hj i
    have hfirst := s.delay_first_le i
    rcases Nat.lt_trichotomy m n with hm | hm | hm
    · have := cycle_le hm s.period
      omega
    · rw [hm] at hjc
      omega
    · have := cycle_le hm s.period
      push_cast
      omega

theorem nextSecond_of_end {j : Fin s.pods} (hj : s.IsLast j) {n : Fin s.cycles}
    (hn : (n : Nat) + 1 = s.cycles) :
    nextSecond (x.samples.map (·.timestamp.seconds)) (s.time n j).seconds = none := by
  rw [nextSecond_eq_none_iff]
  intro c hc
  obtain ⟨m, i, rfl⟩ := x.mem_seconds.1 hc
  have hi := s.withinPeriod i
  have hij := hj i
  simp only [time]
  rcases Nat.lt_or_ge m n with hm | hm
  · have := cycle_le hm s.period
    omega
  · have hmn : (m : Nat) = n := by omega
    rw [hmn]
    omega

/-- The next second after a sample, unless none follows. -/
theorem nextSecond_sample (n : Fin s.cycles) (j : Fin s.pods) :
    nextSecond (x.samples.map (·.timestamp.seconds)) (s.time n j).seconds =
      if s.IsLast j ∧ n + 1 = s.cycles then none
      else some (s.start.seconds + n * s.period + s.next j) := by
  by_cases hj : s.IsLast j
  · by_cases hn : (n : Nat) + 1 = s.cycles
    · rw [if_pos ⟨hj, hn⟩]
      exact x.nextSecond_of_end hj hn
    · rw [if_neg fun h => hn h.2]
      exact x.nextSecond_of_last hj (by omega)
  · rw [if_neg fun h => hj h.1]
    exact x.nextSecond_of_not_last hj n

/-- What a sample is billed for. -/
theorem credit_sample (usual : Duration) (n : Fin s.cycles) (j : Fin s.pods) :
    Usage.credit usual (x.samples.map (·.timestamp.seconds)) (s.time n j).seconds =
      if (n : Nat) + 1 = s.cycles then s.final usual j else s.credit j := by
  have hlt := s.delay_lt_next j
  have hsome : ((s.start.seconds + n * s.period + s.next j : Int) : ℚ) -
      ((s.start.seconds + n * s.period + s.delay j : Int) : ℚ) = s.credit j := by
    unfold credit
    rw [Nat.cast_sub (le_of_lt hlt)]
    push_cast
    ring
  have hnext := x.nextSecond_sample n j
  by_cases hl : s.IsLast j ∧ (n : Nat) + 1 = s.cycles
  · rw [if_pos hl] at hnext
    rw [credit_of_none hnext, if_pos hl.2, final, if_pos hl.1]
  · rw [if_neg hl] at hnext
    rw [credit_of_some hnext]
    simp only [time]
    rw [hsome]
    split
    next hn =>
      rw [final, if_neg fun h => hl ⟨h, hn⟩]
    next => rfl

/-- The credits of all samples. -/
theorem sum_credits (usual : Duration) :
    (x.samples.map fun r => Usage.credit usual (x.samples.map (·.timestamp.seconds))
      r.timestamp.seconds).sum =
      (s.cycles - 1) * ∑ j, (s.credit j : ℚ) + ∑ j, s.final usual j := by
  have hcycles : s.cycles - 1 + 1 = s.cycles := by
    have := s.twoCycles
    omega
  let perCycle : Nat → ℚ := fun n =>
    ∑ j, if n + 1 = s.cycles then s.final usual j else (s.credit j : ℚ)
  have hfirst : ∀ n ∈ Finset.range (s.cycles - 1), perCycle n = ∑ j, (s.credit j : ℚ) := by
    intro n hn
    rw [Finset.mem_range] at hn
    apply Finset.sum_congr rfl
    intro j _
    rw [if_neg (by omega)]
  have hlast : perCycle (s.cycles - 1) = ∑ j, s.final usual j := by
    apply Finset.sum_congr rfl
    intro j _
    rw [if_pos hcycles]
  have hsamples : (x.samples.map fun r => Usage.credit usual
      (x.samples.map (·.timestamp.seconds)) r.timestamp.seconds).sum =
      ∑ n : Fin s.cycles, perCycle n := by
    rw [x.sum_samples]
    apply Finset.sum_congr rfl
    intro n _
    apply Finset.sum_congr rfl
    intro j _
    rw [x.timestamp_eq, x.credit_sample]
  rw [hsamples, Fin.sum_univ_eq_sum_range perCycle, ← hcycles, Finset.sum_range_succ,
    Finset.sum_congr rfl hfirst, hlast, Finset.sum_const, Finset.card_range, nsmul_eq_mul]
  push_cast
  ring

/-- A gap after a sample is the credit of a pod. -/
theorem gap_eq_credit {n : Fin s.cycles} {j : Fin s.pods} {b : Int}
    (h : nextSecond (x.samples.map (·.timestamp.seconds)) (s.time n j).seconds = some b) :
    b - (s.time n j).seconds = s.credit j := by
  have hlt := s.delay_lt_next j
  rw [x.nextSecond_sample] at h
  split at h
  next => cases h
  next =>
    obtain rfl := Option.some.inj h
    simp only [time, credit]
    omega

theorem period_le_keptSpan (x : s.Sampling) : s.period ≤ keptSpan := by
  have htwo := s.twoCycles
  have hspan := sub_lt_keptSpan (x.kept ⟨0, by omega⟩ s.first) (x.kept ⟨1, by omega⟩ s.first)
  simp only [time] at hspan
  push_cast at hspan
  omega

/-- What a bill of all snapshots, in any order, comes to. -/
theorem bill_ok (hp : rows.Perm x.samples) :
    ∃ items usual, billed rows = .ok items ∧ medianInterval (slots rows).keys = .ok usual ∧
      (∀ lo hi, hi ≤ s.period → (∀ j, lo ≤ s.credit j ∧ s.credit j ≤ hi) →
        lo ≤ usual.exact ∧ usual.exact ≤ hi) ∧
      exactSeconds items = (s.cycles - 1) * ∑ j, (s.credit j : ℚ) + ∑ j, s.final usual j ∧
      (s.cycles - 1) * s.period + s.delay s.last - s.delay s.first ≤ exactSeconds items := by
  have htwo := s.twoCycles
  have hmem : ∀ c, c ∈ rows.map (·.timestamp.seconds) ↔
      c ∈ x.samples.map (·.timestamp.seconds) := fun c => (hp.map _).mem_iff
  have hsample : ∀ r ∈ rows, ∃ n j, r = x.sample n j :=
    fun r hr => x.mem_samples.1 (hp.mem_iff.1 hr)
  have hrow : ∀ n j, x.sample n j ∈ rows :=
    fun n j => hp.mem_iff.2 (x.mem_samples.2 ⟨n, j, rfl⟩)
  have hkept : ∀ r ∈ rows, r.timestamp.isKept = true := by
    intro r hr
    obtain ⟨n, j, rfl⟩ := hsample r hr
    rw [x.timestamp_eq]
    exact x.kept n j
  obtain ⟨usual, husual, hbill, hbetween⟩ := billed_ok hkept
  refine ⟨_, usual, hbill, husual, fun lo hi hhi hcredit => ?_, ?_, ?_⟩
  · refine hbetween lo hi (Nat.le_trans hhi x.period_le_keptSpan) ?_ fun r hr b hb => ?_
    · refine ⟨_, hrow ⟨0, by omega⟩ s.first, _, hrow ⟨1, by omega⟩ s.first, ?_⟩
      have := s.withinPeriod s.first
      rw [x.timestamp_eq, x.timestamp_eq]
      simp only [time]
      push_cast
      omega
    · obtain ⟨n, j, rfl⟩ := hsample r hr
      rw [x.timestamp_eq] at hb ⊢
      rw [nextSecond_congr hmem] at hb
      have := hcredit j
      have := x.gap_eq_credit hb
      omega
  · have hnodup := (hp.map fun r => (r.timestamp.seconds, r.gpuKey)).nodup_iff.2 x.nodup_samples
    have hcongr : (rows.map fun r => Usage.credit usual (rows.map (·.timestamp.seconds))
        r.timestamp.seconds) = rows.map fun r => Usage.credit usual
          (x.samples.map (·.timestamp.seconds)) r.timestamp.seconds := by
      apply List.map_congr_left
      intro r _
      rw [credit_congr hmem]
    rw [exactSeconds_slots usual hnodup, hcongr, (hp.map _).sum_eq, x.sum_credits]
  · have hspan := span_le_exactSeconds_slots usual (hrow ⟨0, by omega⟩ s.first)
      (hrow ⟨s.cycles - 1, by omega⟩ s.last)
    rw [x.timestamp_eq, x.timestamp_eq] at hspan
    simp only [time] at hspan
    push_cast [Nat.cast_sub (by omega : 1 ≤ s.cycles)] at hspan
    linarith

end Stagger.Sampling

/-- The bill of pods that are sampled one after another, in exact seconds. What is missing to the
span of every GPU is what each pod loses in each cycle but the last, less the bill of the last
samples. So the bill covers all spans exactly if the last samples make up for the losses; it always
covers the span of the job once, and it misses nothing if all pods of a cycle share their second. -/
theorem staggered_total {s : Stagger} (x : s.Sampling) {rows : List Snapshot}
    (hp : rows.Perm x.samples) (id : JobId) (now : Instant) :
    ∃ items usual summary, billed rows = .ok items ∧
      medianInterval (slots rows).keys = .ok usual ∧ (1 ≤ usual.exact ∧ usual.exact ≤ s.period) ∧
      summarize id rows now = .ok (some summary) ∧
      summary.totalGpuSeconds = totalSeconds items ∧
      exactSeconds items + (s.cycles - 1) * ∑ j, (s.lost j : ℚ) =
        s.pods * (s.cycles - 1) * s.period + ∑ j, s.final usual j ∧
      (s.pods * (s.cycles - 1) * s.period ≤ exactSeconds items ↔
        (s.cycles - 1) * ∑ j, (s.lost j : ℚ) ≤ ∑ j, s.final usual j) ∧
      (s.cycles - 1) * s.period + s.delay s.last - s.delay s.first ≤ exactSeconds items ∧
      ((∀ i j, s.delay i = s.delay j) → exactSeconds items = s.pods * s.cycles * s.period) := by
  obtain ⟨items, usual, hbill, husual, hbetween, htotal, hspan⟩ := x.bill_ok hp
  have htwo := s.twoCycles
  have hne : rows ≠ [] :=
    List.ne_nil_of_mem (hp.mem_iff.2 (x.mem_samples.2 ⟨⟨0, by omega⟩, s.first, rfl⟩))
  obtain ⟨summary, hsummary, hshown⟩ := summarize_ok hne hbill id now
  have hexact : exactSeconds items + (s.cycles - 1) * ∑ j, (s.lost j : ℚ) =
      s.pods * (s.cycles - 1) * s.period + ∑ j, s.final usual j := by
    have hsum : ∑ j, (s.credit j : ℚ) = s.pods * s.period - ∑ j, (s.lost j : ℚ) := by
      have := s.sum_credit_add_lost
      linarith
    rw [htotal, hsum]
    ring
  refine ⟨items, usual, summary, hbill, husual, ?_, hsummary, hshown, hexact, ?_, hspan, ?_⟩
  · have hcredit : ∀ j, 1 ≤ s.credit j ∧ s.credit j ≤ s.period := by
      intro j
      have := s.credit_pos j
      have := s.credit_add_lost j
      omega
    have := hbetween 1 s.period (Nat.le_refl _) hcredit
    simpa using this
  · constructor
    · intro h
      linarith
    · intro h
      linarith
  · intro hsame
    have hcredit := s.credit_of_same hsame
    obtain ⟨hlo, hhi⟩ := hbetween s.period s.period (Nat.le_refl _) fun j => by
      rw [(hcredit j).2]
      exact ⟨Nat.le_refl _, Nat.le_refl _⟩
    have hfinal : ∀ j ∈ Finset.univ, s.final usual j = s.period := by
      intro j _
      rw [Stagger.final, if_pos (hcredit j).1, le_antisymm hhi hlo]
    have hcredits : ∀ j ∈ Finset.univ, (s.credit j : ℚ) = s.period := by
      intro j _
      rw [(hcredit j).2]
    rw [htotal, Finset.sum_congr rfl hfinal, Finset.sum_congr rfl hcredits, Finset.sum_const,
      Finset.card_univ, Fintype.card_fin, nsmul_eq_mul]
    ring

/-! ## Two pods -/

/-- Two pods, sampled twice in thirty seconds, the second one a second after the first. -/
def twoPods : Stagger where
  pods := 2
  cycles := 2
  period := 30
  start := ⟨1709251200, 0⟩
  delay j := j
  somePod := by decide
  twoCycles := by decide
  ordered _ _ h := h
  withinPeriod := by decide

def twoPodsSnapshot (n j : Fin 2) : Snapshot where
  jobId := ⟨1#128⟩
  timestamp := twoPods.time n j
  podName := if j = 0 then "pod-0" else "pod-1"
  podNamespace := ""
  gpuIndex := 0
  gpuUuid := if j = 0 then "GPU-a" else "GPU-b"
  memoryBytes := 0
  utilization := 0
  node := "node-1"
  units := 0
  physicalIndex := 0

def twoPodsSampling : twoPods.Sampling where
  sample := twoPodsSnapshot
  key j := (twoPodsSnapshot 0 j).gpuKey
  timestamp_eq _ _ := rfl
  gpuKey_eq _ _ := rfl
  distinct := by decide
  kept := by decide

theorem twoPods_spans : (twoPods.pods * (twoPods.cycles - 1) * twoPods.period : ℚ) = 60 := by
  norm_num [twoPods]

theorem medianInterval_twoPods :
    medianInterval (slots twoPodsSampling.samples).keys = .ok (.ofSeconds 1) := by
  have hgaps : gaps (slots twoPodsSampling.samples).keys = .ok [1, 29, 1] := rfl
  have hsort : ([1, 29, 1] : List UInt64).mergeSort (fun a b => a ≤ b) = [1, 1, 29] := by
    simp [List.mergeSort]
  have hpositive : positiveGaps (slots twoPodsSampling.samples).keys = .ok [1, 1, 29] := by
    rw [positiveGaps, hgaps, ← hsort]
    rfl
  rw [medianInterval, hpositive]
  rfl

def twoPodsBill : List (Duration × Nat) :=
  [(.ofSeconds 1, 1), (.ofSeconds 29, 1), (.ofSeconds 1, 1), (.ofSeconds 1, 1)]

theorem billed_twoPods : billed twoPodsSampling.samples = .ok twoPodsBill := by
  unfold billed
  simp only [medianInterval_twoPods]
  rfl

theorem exactSeconds_twoPods : exactSeconds twoPodsBill = 32 := by
  simp only [twoPodsBill, exactSeconds_eq_sum, List.map_cons, List.map_nil, List.sum_cons,
    List.sum_nil, Duration.exact_ofSeconds]
  norm_num

/-- Between two samples of one pod the other one is sampled, and takes most of the bill with it. -/
theorem staggered_total_twoPods : ∃ items usual summary,
    billed twoPodsSampling.samples = .ok items ∧
    medianInterval (slots twoPodsSampling.samples).keys = .ok usual ∧
    summarize ⟨1#128⟩ twoPodsSampling.samples ⟨1709251300, 0⟩ = .ok (some summary) ∧
    summary.totalGpuSeconds = 32 ∧ exactSeconds items + 30 = 60 + (1 + usual.exact) := by
  have hsum : ∀ f : Fin twoPods.pods → ℚ, ∑ j, f j = f twoPods.first + f twoPods.last :=
    fun f => Fin.sum_univ_two f
  have hlost : ∑ j, (twoPods.lost j : ℚ) = 30 := by
    have h₁ : twoPods.lost twoPods.first = 29 := by decide
    have h₂ : twoPods.lost twoPods.last = 1 := by decide
    rw [hsum, h₁, h₂]
    norm_num
  have hfinal : ∀ usual, ∑ j, twoPods.final usual j = 1 + usual.exact := by
    intro usual
    have h₁ : twoPods.final usual twoPods.first = 1 := by
      have hcredit : twoPods.credit twoPods.first = 1 := by decide
      rw [Stagger.final, if_neg (by decide), hcredit]
      rfl
    have h₂ : twoPods.final usual twoPods.last = usual.exact := if_pos (by decide)
    rw [hsum, h₁, h₂]
  obtain ⟨items, usual, summary, hbill, husual, -, hsummary, hshown, htotal, -⟩ :=
    staggered_total twoPodsSampling (List.Perm.refl _) ⟨1#128⟩ ⟨1709251300, 0⟩
  have hcycles : (twoPods.cycles - 1 : ℚ) = 1 := by norm_num [twoPods]
  rw [twoPods_spans, hlost, hfinal, hcycles, one_mul] at htotal
  refine ⟨items, usual, summary, hbill, husual, hsummary, hshown.trans ?_, htotal⟩
  obtain rfl := Except.ok.inj (billed_twoPods.symm.trans hbill)
  decide +kernel

/-- The spans of the GPUs need not be covered: two spans of thirty seconds are billed as 32. -/
theorem spans_not_covered :
    (∃ summary, summarize ⟨1#128⟩ twoPodsSampling.samples ⟨1709251300, 0⟩ = .ok (some summary) ∧
      summary.totalGpuSeconds = 32) ∧
    ¬ ∀ (s : Stagger) (x : s.Sampling) (items : List (Duration × Nat)),
      billed x.samples = .ok items → s.pods * (s.cycles - 1) * s.period ≤ exactSeconds items := by
  have hsome : twoPodsSampling.samples ≠ [] := by decide
  obtain ⟨summary, hsummary, hshown⟩ :=
    summarize_ok hsome billed_twoPods ⟨1#128⟩ ⟨1709251300, 0⟩
  refine ⟨⟨summary, hsummary, hshown.trans (by decide +kernel)⟩, fun hall => ?_⟩
  have hspans := hall twoPods twoPodsSampling _ billed_twoPods
  rw [exactSeconds_twoPods, twoPods_spans] at hspans
  norm_num at hspans

end GpuCluster.Usage
