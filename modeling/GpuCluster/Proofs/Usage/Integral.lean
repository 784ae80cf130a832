import Mathlib.Algebra.BigOperators.Ring.List
import Mathlib.Data.Finset.Sort
import GpuCluster.Proofs.Usage.Credit

/-!
# The account as an integral over time

* `sampledSeconds`, `gpusIn` : the seconds with samples, and how many GPUs are seen in one;
* `invoice` : a bill in these terms; `billed_eq` : it is what the snapshots are billed for, so
  `billed_congr` : only which GPU was seen in which second matters;
* `exactSeconds_invoice` : each second lasts until the next one, only the last one for the usual
  interval; `exactSeconds_invoice_of_same` : with the same number of GPUs throughout;
* `summarize_of_billed` : the figures of a summary; `memorySum_perm`, `peakMemory_perm` : those that
  do not depend on the order of the snapshots;
* `summary_integrates` : the account of any snapshots in any order.
-/

namespace GpuCluster

/-! ## The order of instants -/

namespace Instant

instance : LinearOrder Instant where
  le_refl := le_refl
  le_trans t u v htu huv := by
    rw [le_def] at *
    omega
  lt_iff_le_not_ge t u := by
    rw [not_le, le_def, lt_def]
    omega
  le_antisymm t u htu hut := by
    rw [le_def] at htu hut
    exact eq_of_parts (by omega) (by omega)
  le_total t u := by
    rw [le_def, le_def]
    omega
  toDecidableLE := inferInstance

theorem earliest_eq_min : earliest = min := by
  funext t u
  rw [earliest, min_def]
  simp only [← not_le, ite_not]

theorem latest_eq_max : latest = max := by
  funext t u
  rw [latest, max_def]

end Instant

theorem min?_perm {α : Type} [LinearOrder α] {xs ys : List α} (h : xs.Perm ys) :
    xs.min? = ys.min? := by
  ext x
  rw [List.min?_eq_some_iff, List.min?_eq_some_iff, h.mem_iff]
  simp only [h.mem_iff]

theorem max?_perm {α : Type} [LinearOrder α] {xs ys : List α} (h : xs.Perm ys) :
    xs.max? = ys.max? := by
  ext x
  rw [List.max?_eq_some_iff, List.max?_eq_some_iff, h.mem_iff]
  simp only [h.mem_iff]

namespace Usage

variable {rows others : List Snapshot} {items : List (Duration × Nat)} {usual : Duration}
  {seconds : List Int} {gpus : Int → Nat} {first last : Int}

/-! ## Sightings -/

/-- The GPUs that are seen, each with the second. -/
def sightings (rows : List Snapshot) : List (Int × String) :=
  rows.map fun s => (s.timestamp.seconds, s.gpuKey)

/-- The seconds with samples, in order. -/
def sampledSeconds (rows : List Snapshot) : List Int :=
  (rows.map (·.timestamp.seconds)).toFinset.sort (· ≤ ·)

/-- How many GPUs are seen in a second. -/
def gpusIn (rows : List Snapshot) (second : Int) : Nat :=
  ((rows.filter (·.timestamp.seconds = second)).map (·.gpuKey)).toFinset.card

theorem mem_sampledSeconds {second : Int} :
    second ∈ sampledSeconds rows ↔ second ∈ rows.map (·.timestamp.seconds) := by
  rw [sampledSeconds, Finset.mem_sort, List.mem_toFinset]

theorem sampledSeconds_ascend (rows : List Snapshot) : (sampledSeconds rows).Pairwise (· < ·) :=
  (Finset.sortedLT_sort _).pairwise

theorem sampledSeconds_ne_nil (h : rows ≠ []) : sampledSeconds rows ≠ [] := by
  obtain ⟨s, hs⟩ := List.exists_mem_of_ne_nil rows h
  exact List.ne_nil_of_mem (mem_sampledSeconds.2 (List.mem_map_of_mem hs))

section Congr
variable (h : ∀ p, p ∈ sightings rows ↔ p ∈ sightings others)
include h

theorem sampledSeconds_congr : sampledSeconds rows = sampledSeconds others := by
  have hseconds : (rows.map (·.timestamp.seconds)).toFinset =
      (others.map (·.timestamp.seconds)).toFinset := by
    have hfst : ∀ xs : List Snapshot,
        xs.map (·.timestamp.seconds) = (sightings xs).map Prod.fst := by
      intro xs
      rw [sightings, List.map_map]
      rfl
    ext second
    rw [hfst, hfst]
    simp only [List.mem_toFinset, List.mem_map, h]
  rw [sampledSeconds, hseconds]
  rfl

theorem gpusIn_congr : gpusIn rows = gpusIn others := by
  have hkeys : ∀ (xs : List Snapshot) (second : Int) (key : String),
      key ∈ ((xs.filter (·.timestamp.seconds = second)).map (·.gpuKey)).toFinset ↔
        (second, key) ∈ sightings xs := by
    intro xs second key
    simp only [sightings, List.mem_toFinset, List.mem_map, List.mem_filter, decide_eq_true_eq,
      Prod.mk.injEq, and_assoc]
  funext second
  unfold gpusIn
  congr 1
  ext key
  rw [hkeys, hkeys, h]

end Congr

/-! ## Invoices -/

/-- The seconds that some GPUs are billed for: each one until the next, the last one for the usual
interval. -/
def invoice (usual : Duration) (gpus : Int → Nat) : List Int → List (Duration × Nat)
  | [] => []
  | [a] => [(usual, gpus a)]
  | a :: b :: rest => (.ofSeconds (b - a).toNat, gpus a) :: invoice usual gpus (b :: rest)

theorem bill_eq_invoice {entries : List (Int × List String)}
    (h : ∀ e ∈ entries, e.2.length = gpus e.1) :
    bill usual entries = invoice usual gpus (entries.map (·.1)) := by
  induction entries with
  | nil => rfl
  | cons e rest ih =>
    have hfirst := h e List.mem_cons_self
    have hrest := ih fun f hf => h f (List.mem_cons_of_mem e hf)
    cases rest with
    | nil =>
      rw [bill, hfirst]
      rfl
    | cons f rest =>
      rw [bill, hrest, hfirst]
      rfl

theorem keys_slots (rows : List Snapshot) : (slots rows).keys = sampledSeconds rows := by
  have hshows := slots_shows rows
  have hkeys : (slots rows).keys.Pairwise (· < ·) := List.pairwise_map.2 hshows.sorted
  have hseconds := sampledSeconds_ascend rows
  have hperm : (slots rows).keys.Perm (sampledSeconds rows) := by
    refine (List.perm_ext_iff_of_nodup (hkeys.imp fun h => ne_of_lt h)
      (hseconds.imp fun h => ne_of_lt h)).2 fun second => ?_
    rw [hshows.mem_keys_iff, mem_sampledSeconds]
  exact hperm.eq_of_pairwise (fun a b _ _ hab hba => absurd hab (lt_asymm hba)) hkeys hseconds

theorem length_of_mem_slots {e : Int × List String} (he : e ∈ (slots rows).entries) :
    e.2.length = gpusIn rows e.1 := by
  have hshows := slots_shows rows
  rw [gpusIn, ← List.toFinset_card_of_nodup (hshows.nodup e he)]
  congr 1
  ext key
  rw [List.mem_toFinset, List.mem_toFinset, ← Slots.seenIn_of_mem hshows.sorted he,
    Slots.mem_seenIn hshows.sorted, hshows.mem_iff]
  simp only [List.mem_map, List.mem_filter, decide_eq_true_eq, and_assoc]

/-- What the snapshots are billed for. -/
theorem billed_eq (rows : List Snapshot) : billed rows =
    (medianInterval (sampledSeconds rows)).map fun usual =>
      invoice usual (gpusIn rows) (sampledSeconds rows) := by
  unfold billed
  dsimp only
  rw [keys_slots]
  cases medianInterval (sampledSeconds rows) with
  | error f => rfl
  | ok usual =>
    have hbill : bill usual (slots rows).entries =
        invoice usual (gpusIn rows) (slots rows).keys :=
      bill_eq_invoice fun _ he => length_of_mem_slots he
    rw [keys_slots] at hbill
    exact congrArg Except.ok hbill

/-- Only which GPU was seen in which second matters. -/
theorem billed_congr (h : ∀ p, p ∈ sightings rows ↔ p ∈ sightings others) :
    billed rows = billed others := by
  rw [billed_eq, billed_eq, sampledSeconds_congr h, gpusIn_congr h]

/-- Each second lasts until the next one, and only the last one for the usual interval. -/
theorem exactSeconds_invoice (usual : Duration) (gpus : Int → Nat)
    (h : seconds.Pairwise (· < ·)) (hlast : seconds.getLast? = some last) :
    exactSeconds (invoice usual gpus seconds) =
      ((seconds.zip seconds.tail).map fun p => (p.2 - p.1 : ℚ) * gpus p.1).sum +
        usual.exact * gpus last := by
  induction seconds with
  | nil => cases hlast
  | cons a rest ih =>
    obtain ⟨hbefore, hrest⟩ := List.pairwise_cons.1 h
    cases rest with
    | nil =>
      obtain rfl : a = last := Option.some.inj hlast
      simp [invoice, exactSeconds_eq_sum]
    | cons b rest =>
      rw [List.getLast?_cons_cons] at hlast
      have hgap : (Duration.ofSeconds (b - a).toNat).exact = b - a :=
        exact_gap (hbefore b List.mem_cons_self)
      have hzip : (a :: b :: rest).zip (a :: b :: rest).tail =
          (a, b) :: (b :: rest).zip (b :: rest).tail := rfl
      rw [invoice, exactSeconds_cons, hgap, ih hrest hlast, hzip, List.map_cons, List.sum_cons,
        add_assoc]

theorem sum_gaps (hfirst : seconds.head? = some first) (hlast : seconds.getLast? = some last) :
    ((seconds.zip seconds.tail).map fun p => (p.2 - p.1 : ℚ)).sum = last - first := by
  induction seconds generalizing first with
  | nil => cases hlast
  | cons a rest ih =>
    obtain rfl : a = first := Option.some.inj hfirst
    cases rest with
    | nil =>
      obtain rfl : a = last := Option.some.inj hlast
      simp
    | cons b rest =>
      rw [List.getLast?_cons_cons] at hlast
      have hzip : (a :: b :: rest).zip (a :: b :: rest).tail =
          (a, b) :: (b :: rest).zip (b :: rest).tail := rfl
      rw [hzip, List.map_cons, List.sum_cons, ih rfl hlast]
      ring

/-- The same GPUs throughout are billed from the first second to the last one and for the usual
interval after it. -/
theorem exactSeconds_invoice_of_same {g : Nat} (usual : Duration) (h : seconds.Pairwise (· < ·))
    (hfirst : seconds.head? = some first) (hlast : seconds.getLast? = some last)
    (hsame : ∀ second ∈ seconds, gpus second = g) :
    exactSeconds (invoice usual gpus seconds) = g * (last - first + usual.exact) := by
  have hgaps : ((seconds.zip seconds.tail).map fun p => (p.2 - p.1 : ℚ) * gpus p.1) =
      (seconds.zip seconds.tail).map fun p => (p.2 - p.1 : ℚ) * g := by
    apply List.map_congr_left
    intro p hp
    rw [hsame p.1 (List.of_mem_zip hp).1]
  rw [exactSeconds_invoice usual gpus h hlast, hgaps, List.sum_map_mul_right,
    sum_gaps hfirst hlast, hsame last (List.mem_of_getLast? hlast)]
  ring

/-! ## The other figures -/

theorem toInt_max (x y : Int64) : (max x y).toInt = max x.toInt y.toInt := by
  change (if x ≤ y then y else x).toInt = _
  split
  next h =>
    rw [Int64.le_iff_toInt_le] at h
    omega
  next h =>
    rw [Int64.le_iff_toInt_le] at h
    omega

theorem peakMemory_perm (h : rows.Perm others) : peakMemory rows = peakMemory others := by
  refine h.foldl_eq' (fun x _ y _ z => ?_) 0
  rw [← Int64.toInt_inj]
  simp only [toInt_max]
  omega

/-- A sum of figures that are not negative only ever stops at the upper end of its range. -/
theorem memorySum_perm (h : rows.Perm others) (hpos : ∀ s ∈ rows, 0 ≤ s.memoryBytes) :
    memorySum rows = memorySum others := by
  refine h.foldl_eq' (fun x hx y hy z => ?_) 0
  have hx' := Int64.le_iff_toInt_le.1 (hpos x hx)
  have hy' := Int64.le_iff_toInt_le.1 (hpos y hy)
  have hz := z.minValue_le_toInt
  rw [← Int64.toInt_inj]
  simp only [Saturating.toInt_addI64, Int64.toInt_minValue, Int64.toInt_maxValue] at *
  change 0 ≤ _ at hx'
  change 0 ≤ _ at hy'
  omega

/-- The summary of some snapshots, by their bill. -/
theorem summarize_of_billed (hne : rows ≠ []) (h : billed rows = .ok items) (id : JobId)
    (now : Instant) : summarize id rows now = .ok (some {
      jobId := id
      totalGpuSeconds := totalSeconds items
      peakMemoryBytes := peakMemory rows
      averageUtilization := utilizationSum rows / rows.length.toFloat
      averageMemoryBytes := memorySum rows / Int64.ofNat rows.length
      sampleCount := rows.length
      firstSampleAt := (rows.map (·.timestamp)).min?
      lastSampleAt := (rows.map (·.timestamp)).max?
      computedAt := now }) := by
  cases rows with
  | nil => exact absurd rfl hne
  | cons r rest =>
    unfold summarize
    simp only [h, Instant.earliest_eq_min, Instant.latest_eq_max]
    rw [List.map_cons, List.min?_cons', List.max?_cons']
    rfl

/-! ## The account -/

/-- The account of any snapshots. Each second with samples counts, for every GPU that is seen in it,
until the next such second, and only the last one for the usual interval, which for the same GPUs
throughout is their number times the time from first to last and that interval. The order of the
snapshots does not matter, except for the average utilization and, if there are negative ones among
the memory figures, their average; and a further snapshot of a GPU in a second in which it has been
seen changes nothing in the total. -/
theorem summary_integrates (hne : rows ≠ []) (hkept : ∀ s ∈ rows, s.timestamp.isKept = true)
    (id : JobId) (now : Instant) :
    ∃ usual items summary first last, medianInterval (sampledSeconds rows) = .ok usual ∧
      billed rows = .ok items ∧ summarize id rows now = .ok (some summary) ∧
      summary.totalGpuSeconds = totalSeconds items ∧
      (sampledSeconds rows).head? = some first ∧ (sampledSeconds rows).getLast? = some last ∧
      exactSeconds items = (((sampledSeconds rows).zip (sampledSeconds rows).tail).map
        fun p => (p.2 - p.1 : ℚ) * gpusIn rows p.1).sum + usual.exact * gpusIn rows last ∧
      (∀ g : Nat, (∀ second ∈ sampledSeconds rows, gpusIn rows second = g) →
        exactSeconds items = g * (last - first + usual.exact)) ∧
      (∀ others, others.Perm rows → billed others = .ok items ∧
        ∃ other, summarize id others now = .ok (some other) ∧
          other.totalGpuSeconds = summary.totalGpuSeconds ∧
          other.peakMemoryBytes = summary.peakMemoryBytes ∧
          other.sampleCount = summary.sampleCount ∧
          other.firstSampleAt = summary.firstSampleAt ∧
          other.lastSampleAt = summary.lastSampleAt ∧
          ((∀ s ∈ rows, 0 ≤ s.memoryBytes) →
            other.averageMemoryBytes = summary.averageMemoryBytes)) ∧
      ∀ s ∈ rows, ∀ r : Snapshot, r.timestamp.seconds = s.timestamp.seconds →
        r.gpuKey = s.gpuKey → ∀ others, others.Perm (r :: rows) → billed others = .ok items ∧
          ∃ other, summarize id others now = .ok (some other) ∧
            other.totalGpuSeconds = summary.totalGpuSeconds := by
  obtain ⟨usual, husual, -⟩ := billed_ok hkept
  rw [keys_slots] at husual
  have hbilled : billed rows = .ok (invoice usual (gpusIn rows) (sampledSeconds rows)) := by
    rw [billed_eq, husual]
    rfl
  have hascend := sampledSeconds_ascend rows
  have hfirst := List.head?_eq_some_head (sampledSeconds_ne_nil hne)
  have hlast := List.getLast?_eq_some_getLast (sampledSeconds_ne_nil hne)
  refine ⟨usual, _, _, _, _, husual, hbilled, summarize_of_billed hne hbilled id now, rfl,
    hfirst, hlast, exactSeconds_invoice usual _ hascend hlast,
    fun g hsame => exactSeconds_invoice_of_same usual hascend hfirst hlast hsame,
    fun others hperm => ?_, fun s hs r hsecond hkey others hperm => ?_⟩
  · have hothers : billed others = billed rows :=
      billed_congr fun p => (hperm.map _).mem_iff
    have hne' : others ≠ [] := by
      rintro rfl
      exact hne hperm.nil_eq.symm
    have htimes := hperm.map (·.timestamp)
    rw [hbilled] at hothers
    refine ⟨hothers, _, summarize_of_billed hne' hothers id now, rfl, peakMemory_perm hperm,
      hperm.length_eq, min?_perm htimes, max?_perm htimes, fun hpos => ?_⟩
    dsimp only
    rw [memorySum_perm hperm.symm hpos, hperm.length_eq]
  · have hothers : billed others = billed rows := by
      refine billed_congr fun p => ?_
      have hagain : (r.timestamp.seconds, r.gpuKey) ∈ sightings rows := by
        rw [hsecond, hkey]
        exact List.mem_map_of_mem hs
      rw [sightings, (hperm.map _).mem_iff, List.map_cons, List.mem_cons, or_iff_right_of_imp]
      · rfl
      · rintro rfl
        exact hagain
    have hne' : others ≠ [] := List.ne_nil_of_mem (hperm.mem_iff.2 List.mem_cons_self)
    rw [hbilled] at hothers
    exact ⟨hothers, _, summarize_of_billed hne' hothers id now, rfl⟩

/-- A snapshot of one of the GPUs of a pod. -/
def gpuSnapshot (time : Instant) (gpu : Int32) : Snapshot where
  jobId := ⟨1#128⟩
  timestamp := time
  podName := "trainer-0"
  podNamespace := "ml"
  gpuIndex := gpu
  gpuUuid := ""
  memoryBytes := 10
  utilization := 0
  node := "node-1"
  units := 10
  physicalIndex := gpu

/-- Two GPUs in the last second before 1970, and one of them ten seconds later; the last snapshot
comes first. -/
def earlySnapshots : List Snapshot :=
  [gpuSnapshot ⟨9, 0⟩ 0, gpuSnapshot ⟨-1, 900000000⟩ 1, gpuSnapshot ⟨-1, 100000000⟩ 0]

/-- Two GPUs for ten seconds, then one for the usual ten. -/
theorem summary_integrates_early : (∀ s ∈ earlySnapshots, s.timestamp.isKept = true) ∧
    ∃ items summary, billed earlySnapshots = .ok items ∧
      summarize ⟨1#128⟩ earlySnapshots ⟨100, 0⟩ = .ok (some summary) ∧
      summary.totalGpuSeconds = 30 ∧ exactSeconds items = 30 := by
  have hkept : ∀ s ∈ earlySnapshots, s.timestamp.isKept = true := by decide
  have hne : earlySnapshots ≠ [] := List.cons_ne_nil _ _
  obtain ⟨usual, items, summary, first, last, husual, hbilled, hsummary, hshown, -, hlast, htotal,
    -⟩ := summary_integrates hne hkept ⟨1#128⟩ ⟨100, 0⟩
  have hseconds : sampledSeconds earlySnapshots = [-1, 9] := by
    rw [← keys_slots]
    rfl
  have hten : medianInterval [-1, 9] = .ok (.ofSeconds 10) := by
    have hgaps : positiveGaps [-1, 9] = .ok [10] := by
      have hsort : ([10] : List UInt64).mergeSort (fun a b => a ≤ b) = [10] :=
        List.mergeSort_singleton 10
      rw [positiveGaps, ← hsort]
      rfl
    rw [medianInterval, hgaps]
    rfl
  have htwo : gpusIn earlySnapshots (-1) = 2 := by decide
  have hone : gpusIn earlySnapshots 9 = 1 := by decide
  rw [hseconds] at husual hlast htotal
  obtain rfl := Except.ok.inj (hten.symm.trans husual)
  obtain rfl : 9 = last := Option.some.inj hlast
  have hitems : billed earlySnapshots = .ok [(.ofSeconds 10, 2), (.ofSeconds 10, 1)] := by
    rw [billed_eq, hseconds, hten]
    change Except.ok (invoice (.ofSeconds 10) (gpusIn earlySnapshots) [-1, 9]) = _
    rw [invoice, invoice, htwo, hone]
    rfl
  obtain rfl := Except.ok.inj (hitems.symm.trans hbilled)
  refine ⟨hkept, _, summary, hbilled, hsummary, hshown.trans ?_, htotal.trans ?_⟩
  · decide +kernel
  · norm_num [htwo, hone]

end Usage

end GpuCluster
