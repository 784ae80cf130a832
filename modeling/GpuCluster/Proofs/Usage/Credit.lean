import Mathlib.Algebra.BigOperators.Group.List.Basic
import Mathlib.Algebra.Order.BigOperators.Group.List
import Mathlib.Tactic.Linarith
import Mathlib.Tactic.Positivity
import GpuCluster.Proofs.Usage.Median
import GpuCluster.Proofs.Usage.Slots

/-!
# What a sample is billed for

A total that a summary shows in doubles is read in rational numbers here, without rounding.

* `nextSecond` : the next of some seconds after a time;
* `credit` : the time to the next second, or the usual interval after the last one;
* `exactSeconds` : the total of a bill, read in rational numbers;
* `exactSeconds_bill` : each second is billed for its credit, as often as it has GPUs;
* `span_le_exactSeconds` : the time between any two samples is billed at least once;
* `medianInterval_ok` : there is a usual interval, and it lies between the gaps;
* `exactSeconds_slots` : each sample of a GPU is billed for its credit;
* `exists_summarize`, `of_summarize` : the summary of some snapshots.
-/

namespace GpuCluster.Usage

variable {usual : Duration} {seconds : List Int} {rows : List Snapshot} {t a b : Int}

/-! ## Credit -/

/-- The next of some seconds after a time. -/
def nextSecond (seconds : List Int) (t : Int) : Option Int := (seconds.filter (t < ·)).min?

/-- What a sample at a time is billed for: the time to the next second, or the usual interval. -/
def credit (usual : Duration) (seconds : List Int) (t : Int) : ℚ :=
  match nextSecond seconds t with
  | some b => b - t
  | none => usual.exact

theorem nextSecond_eq_some_iff :
    nextSecond seconds t = some b ↔ b ∈ seconds ∧ t < b ∧ ∀ c ∈ seconds, t < c → b ≤ c := by
  rw [nextSecond, List.min?_eq_some_iff]
  simp only [List.mem_filter, decide_eq_true_eq]
  constructor
  · rintro ⟨⟨hb, hlt⟩, hle⟩
    exact ⟨hb, hlt, fun c hc htc => hle c ⟨hc, htc⟩⟩
  · rintro ⟨hb, hlt, hle⟩
    exact ⟨⟨hb, hlt⟩, fun c hc => hle c hc.1 hc.2⟩

theorem nextSecond_eq_none_iff : nextSecond seconds t = none ↔ ∀ c ∈ seconds, c ≤ t := by
  rw [nextSecond, List.min?_eq_none_iff, List.filter_eq_nil_iff]
  simp only [decide_eq_true_eq, not_lt]

/-- Only which seconds there are matters. -/
theorem nextSecond_congr {others : List Int} (h : ∀ c, c ∈ seconds ↔ c ∈ others) (t : Int) :
    nextSecond seconds t = nextSecond others t := by
  ext b
  rw [nextSecond_eq_some_iff, nextSecond_eq_some_iff, h]
  simp only [h]

theorem nextSecond_cons_of_le (h : a ≤ t) : nextSecond (a :: seconds) t = nextSecond seconds t := by
  unfold nextSecond
  rw [List.filter_cons_of_neg]
  simpa using h

theorem credit_of_some (h : nextSecond seconds t = some b) : credit usual seconds t = b - t := by
  unfold credit
  rw [h]

theorem credit_of_none (h : nextSecond seconds t = none) :
    credit usual seconds t = usual.exact := by
  unfold credit
  rw [h]

theorem credit_congr {others : List Int} (h : ∀ c, c ∈ seconds ↔ c ∈ others) (t : Int) :
    credit usual seconds t = credit usual others t := by
  unfold credit
  rw [nextSecond_congr h]

theorem credit_cons_of_le (h : a ≤ t) : credit usual (a :: seconds) t = credit usual seconds t := by
  unfold credit
  rw [nextSecond_cons_of_le h]

/-! ## Bills -/

/-- The total of a bill, exactly. -/
def exactSeconds (items : List (Duration × Nat)) : ℚ := totalSeconds items

/-- Without rounding, the order of a bill does not matter to its total. -/
theorem exactSeconds_eq_sum (items : List (Duration × Nat)) :
    exactSeconds items = (items.map fun (d, gpus) => d.exact * gpus).sum := by
  rw [List.sum_eq_foldl, List.foldl_map]
  rfl

theorem exactSeconds_nonneg (items : List (Duration × Nat)) : 0 ≤ exactSeconds items := by
  rw [exactSeconds_eq_sum]
  apply List.sum_nonneg
  intro x hx
  obtain ⟨⟨d, gpus⟩, -, rfl⟩ := List.mem_map.1 hx
  have := d.exact_nonneg
  positivity

theorem exactSeconds_cons (d : Duration) (gpus : Nat) (items : List (Duration × Nat)) :
    exactSeconds ((d, gpus) :: items) = d.exact * gpus + exactSeconds items := by
  rw [exactSeconds_eq_sum, List.map_cons, List.sum_cons, exactSeconds_eq_sum]

section Bill
variable {entries : List (Int × List String)}

theorem exact_gap (h : a < b) : (Duration.ofSeconds (b - a).toNat).exact = b - a := by
  have hcast : (((b - a).toNat : Int) : ℚ) = ((b - a : Int) : ℚ) := by
    rw [Int.toNat_of_nonneg (by omega)]
  rw [Duration.exact_ofSeconds]
  push_cast at hcast
  exact hcast

/-- Each second is billed for its credit, as often as it has GPUs. -/
theorem exactSeconds_bill (h : entries.Pairwise fun e f => e.1 < f.1) :
    exactSeconds (bill usual entries) =
      (entries.map fun e => credit usual (entries.map (·.1)) e.1 * e.2.length).sum := by
  induction entries with
  | nil => rfl
  | cons e rest ih =>
    obtain ⟨hfirst, hrest⟩ := List.pairwise_cons.1 h
    obtain ⟨a, gpus⟩ := e
    have htail : (rest.map fun e => credit usual (((a, gpus) :: rest).map (·.1)) e.1 * e.2.length) =
        rest.map fun e => credit usual (rest.map (·.1)) e.1 * e.2.length := by
      apply List.map_congr_left
      intro e he
      rw [List.map_cons, credit_cons_of_le (le_of_lt (hfirst e he))]
    rw [List.map_cons, List.sum_cons, htail, ← ih hrest]
    cases rest with
    | nil =>
      have hnone : nextSecond [a] a = none := nextSecond_eq_none_iff.2 (by simp)
      simp [bill, exactSeconds_eq_sum, credit_of_none hnone]
    | cons f others =>
      obtain ⟨b, gpus'⟩ := f
      have hab : a < b := hfirst _ List.mem_cons_self
      have hnext : nextSecond (((a, gpus) :: (b, gpus') :: others).map (·.1)) a = some b := by
        rw [nextSecond_eq_some_iff]
        refine ⟨by simp, hab, fun c hc hac => ?_⟩
        obtain ⟨e, he, rfl⟩ := List.mem_map.1 hc
        rcases List.mem_cons.1 he with rfl | he
        · exact absurd hac (lt_irrefl _)
        rcases List.mem_cons.1 he with rfl | he
        · exact le_refl _
        · exact le_of_lt ((List.pairwise_cons.1 hrest).1 e he)
      rw [bill, exactSeconds_cons, exact_gap hab, credit_of_some hnext]

/-- The time between any two seconds is billed at least once. -/
theorem span_le_exactSeconds (h : entries.Pairwise fun e f => e.1 < f.1)
    (hseen : ∀ e ∈ entries, e.2 ≠ []) {e f : Int × List String} (he : e ∈ entries)
    (hf : f ∈ entries) : (f.1 - e.1 : ℚ) ≤ exactSeconds (bill usual entries) := by
  have hfirst : ∀ (a : Int) (gpus : List String) (rest : List (Int × List String)),
      ((a, gpus) :: rest).Pairwise (fun e f => e.1 < f.1) →
      (∀ e ∈ (a, gpus) :: rest, e.2 ≠ []) → ∀ f ∈ (a, gpus) :: rest,
      (f.1 - a : ℚ) ≤ exactSeconds (bill usual ((a, gpus) :: rest)) := by
    intro a gpus rest
    induction rest generalizing a gpus with
    | nil =>
      intro _ _ f hf
      obtain rfl := List.mem_singleton.1 hf
      have := exactSeconds_nonneg (bill usual [(a, gpus)])
      linarith
    | cons g others ih =>
      intro hsorted hseen f hf
      obtain ⟨b, gpus'⟩ := g
      obtain ⟨hbefore, hrest⟩ := List.pairwise_cons.1 hsorted
      have hab : a < b := hbefore _ List.mem_cons_self
      have habq : (a : ℚ) < b := by exact_mod_cast hab
      have hone : (1 : ℚ) ≤ gpus.length := by
        have := List.length_pos_of_ne_nil (hseen _ List.mem_cons_self)
        exact_mod_cast this
      have hgap : (b - a : ℚ) ≤ (b - a) * gpus.length := by nlinarith
      rw [bill, exactSeconds_cons, exact_gap hab]
      have hothers := exactSeconds_nonneg (bill usual ((b, gpus') :: others))
      rcases List.mem_cons.1 hf with rfl | hf
      · dsimp only
        linarith
      · have := ih b gpus' hrest (fun e he => hseen e (List.mem_cons_of_mem _ he)) f hf
        linarith
  induction entries with
  | nil => exact absurd he List.not_mem_nil
  | cons g rest ih =>
    obtain ⟨a, gpus⟩ := g
    have hspan := hfirst a gpus rest h hseen f hf
    rcases List.mem_cons.1 he with rfl | he
    · exact hspan
    · have hae : (a : ℚ) < e.1 := by exact_mod_cast (List.pairwise_cons.1 h).1 e he
      linarith

end Bill

/-! ## The usual interval -/

theorem sub_lt_keptSpan {x y : Instant} (hx : x.isKept = true) (hy : y.isKept = true) :
    y.seconds - x.seconds < keptSpan := by
  simp only [Instant.isKept, Bool.and_eq_true, decide_eq_true_eq] at hx hy
  unfold keptSpan
  omega

/-- Each gap between ascending seconds is from a second to the next. -/
theorem exists_nextSecond (h : seconds.Pairwise (· < ·)) {g : Int} (hg : g ∈ differences seconds) :
    ∃ a ∈ seconds, nextSecond seconds a = some (a + g) := by
  induction seconds with
  | nil => exact absurd hg List.not_mem_nil
  | cons a rest ih =>
    cases rest with
    | nil => exact absurd hg List.not_mem_nil
    | cons b others =>
      obtain ⟨hbefore, hrest⟩ := List.pairwise_cons.1 h
      have hab : a < b := hbefore b List.mem_cons_self
      rw [differences_cons_cons] at hg
      rcases List.mem_cons.1 hg with rfl | hg
      · refine ⟨a, List.mem_cons_self, ?_⟩
        rw [add_sub_cancel, nextSecond_eq_some_iff]
        refine ⟨List.mem_cons_of_mem _ List.mem_cons_self, hab, fun c hc hac => ?_⟩
        rcases List.mem_cons.1 hc with rfl | hc
        · exact absurd hac (lt_irrefl _)
        rcases List.mem_cons.1 hc with rfl | hc
        · exact le_refl _
        · exact le_of_lt ((List.pairwise_cons.1 hrest).1 c hc)
      · obtain ⟨c, hc, hnext⟩ := ih hrest hg
        refine ⟨c, List.mem_cons_of_mem _ hc, ?_⟩
        rw [nextSecond_cons_of_le (le_of_lt (hbefore c hc))]
        exact hnext

/-- There is a usual interval, and it lies between the gaps if there are any. -/
theorem medianInterval_ok (h : seconds.Pairwise (· < ·))
    (hspan : ∀ a ∈ seconds, ∀ b ∈ seconds, b - a < keptSpan) :
    ∃ usual, medianInterval seconds = .ok usual ∧ ∀ lo hi : Nat, hi ≤ keptSpan →
      1 < seconds.length →
      (∀ a ∈ seconds, ∀ b, nextSecond seconds a = some b → lo ≤ b - a ∧ b - a ≤ hi) →
      lo ≤ usual.exact ∧ usual.exact ≤ hi := by
  obtain ⟨usual, husual, -, hmedian⟩ := exists_medianInterval hspan
  refine ⟨usual, husual, fun lo hi _ hlength hgap => ?_⟩
  rw [rises_of_pairwise h] at hmedian
  have hne : differences seconds ≠ [] := by
    have := length_differences seconds
    exact List.ne_nil_of_length_pos (by omega)
  refine (hmedian hne).between_bounds fun g hg => ?_
  obtain ⟨a, ha, hnext⟩ := exists_nextSecond h hg
  have := hgap a ha _ hnext
  omega

/-! ## Samples -/

/-- A sum over the GPUs of all seconds. -/
theorem sum_pairs (slots : Slots) (f : Int → ℚ) :
    (slots.pairs.map fun p => f p.1).sum =
      (slots.entries.map fun e => f e.1 * e.2.length).sum := by
  unfold Slots.pairs
  induction slots.entries with
  | nil => rfl
  | cons e rest ih =>
    have hone : ((e.2.map (e.1, ·)).map fun p : Int × String => f p.1).sum =
        f e.1 * e.2.length := by
      simp [Function.comp_def, mul_comm]
    rw [List.flatMap_cons, List.map_append, List.sum_append, hone, ih, List.map_cons, List.sum_cons]

/-- Snapshots of which no two are of one GPU in one second are billed for their credits. -/
theorem exactSeconds_slots (usual : Duration)
    (hn : (rows.map fun s => (s.timestamp.seconds, s.gpuKey)).Nodup) :
    exactSeconds (bill usual (slots rows).entries) =
      (rows.map fun s =>
        credit usual (rows.map (·.timestamp.seconds)) s.timestamp.seconds).sum := by
  have hshows := slots_shows rows
  have hperm := (hshows.pairs_perm hn).map fun p =>
    credit usual (rows.map (·.timestamp.seconds)) p.1
  have hcredit : ((slots rows).entries.map fun e =>
      credit usual (slots rows).keys e.1 * e.2.length) =
      (slots rows).entries.map fun e =>
        credit usual (rows.map (·.timestamp.seconds)) e.1 * e.2.length := by
    apply List.map_congr_left
    intro e _
    rw [credit_congr fun _ => hshows.mem_keys_iff]
  rw [exactSeconds_bill hshows.sorted, ← Index.keys, hcredit,
    ← sum_pairs _ (credit usual (rows.map (·.timestamp.seconds))), hperm.sum_eq, List.map_map]
  rfl

/-- Snapshots of kept dates have a bill. -/
theorem billed_ok (hkept : ∀ s ∈ rows, s.timestamp.isKept = true) :
    ∃ usual, medianInterval (slots rows).keys = .ok usual ∧
      billed rows = .ok (bill usual (slots rows).entries) ∧
      ∀ lo hi : Nat, hi ≤ keptSpan →
        (∃ s ∈ rows, ∃ r ∈ rows, s.timestamp.seconds < r.timestamp.seconds) →
        (∀ s ∈ rows, ∀ b, nextSecond (rows.map (·.timestamp.seconds)) s.timestamp.seconds = some b →
          lo ≤ b - s.timestamp.seconds ∧ b - s.timestamp.seconds ≤ hi) →
        lo ≤ usual.exact ∧ usual.exact ≤ hi := by
  have hshows := slots_shows rows
  have hsorted : (slots rows).keys.Pairwise (· < ·) := List.pairwise_map.2 hshows.sorted
  have hspan : ∀ a ∈ (slots rows).keys, ∀ b ∈ (slots rows).keys, b - a < keptSpan := by
    intro a ha b hb
    obtain ⟨s, hs, rfl⟩ := List.mem_map.1 (hshows.mem_keys_iff.1 ha)
    obtain ⟨r, hr, rfl⟩ := List.mem_map.1 (hshows.mem_keys_iff.1 hb)
    exact sub_lt_keptSpan (hkept s hs) (hkept r hr)
  obtain ⟨usual, husual, hbetween⟩ := medianInterval_ok hsorted hspan
  refine ⟨usual, husual, ?_, fun lo hi hhi htwo hgap => hbetween lo hi hhi ?_ fun a ha b hb => ?_⟩
  · unfold billed
    simp only [husual]
    rfl
  · obtain ⟨s, hs, r, hr, hlt⟩ := htwo
    have hs' := hshows.mem_keys_iff.2 (List.mem_map_of_mem hs)
    have hr' := hshows.mem_keys_iff.2 (List.mem_map_of_mem hr)
    by_contra hone
    have hle : (slots rows).keys.length ≤ 1 := by omega
    obtain ⟨c, hc⟩ := List.length_eq_one_iff.1 (by
      have := List.length_pos_of_mem hs'
      omega : (slots rows).keys.length = 1)
    rw [hc, List.mem_singleton] at hs' hr'
    omega
  · obtain ⟨s, hs, rfl⟩ := List.mem_map.1 (hshows.mem_keys_iff.1 ha)
    rw [nextSecond_congr fun _ => hshows.mem_keys_iff] at hb
    exact hgap s hs b hb

/-- A summary shows the total of the bill in doubles. -/
theorem summarize_ok {items : List (Duration × Nat)} (hne : rows ≠ []) (h : billed rows = .ok items)
    (id : JobId) (now : Instant) : ∃ summary, summarize id rows now = .ok (some summary) ∧
      summary.totalGpuSeconds = totalSeconds items := by
  cases rows with
  | nil => exact absurd rfl hne
  | cons r rest =>
    unfold summarize
    simp only [h]
    exact ⟨_, rfl, rfl⟩

/-- Snapshots of kept dates have a summary. -/
theorem exists_summarize (hne : rows ≠ []) (hkept : ∀ s ∈ rows, s.timestamp.isKept = true)
    (id : JobId) (now : Instant) : ∃ summary, summarize id rows now = .ok (some summary) := by
  obtain ⟨usual, -, hbill, -⟩ := billed_ok hkept
  obtain ⟨summary, hsummary, -⟩ := summarize_ok hne hbill id now
  exact ⟨summary, hsummary⟩

/-- A summary is about the job it is made for, and counts the snapshots it is made from. -/
theorem of_summarize {id : JobId} {now : Instant} {summary : Summary}
    (h : summarize id rows now = .ok (some summary)) :
    rows ≠ [] ∧ summary.jobId = id ∧ summary.sampleCount = rows.length := by
  cases rows with
  | nil => cases h
  | cons r rest =>
    refine ⟨List.cons_ne_nil r rest, ?_⟩
    unfold summarize at h
    cases hbill : billed (r :: rest) with
    | error f =>
      rw [hbill] at h
      cases h
    | ok items =>
      rw [hbill] at h
      cases h
      exact ⟨rfl, rfl⟩

/-- Only without snapshots there is no summary. -/
theorem summarize_ok_none {id : JobId} {now : Instant} (h : summarize id rows now = .ok none) :
    rows = [] := by
  cases rows with
  | nil => rfl
  | cons r rest =>
    unfold summarize at h
    cases hbill : billed (r :: rest) with
    | error f =>
      rw [hbill] at h
      cases h
    | ok items =>
      rw [hbill] at h
      cases h

/-- The time between any two samples is billed at least once. -/
theorem span_le_exactSeconds_slots (usual : Duration) {s r : Snapshot} (hs : s ∈ rows)
    (hr : r ∈ rows) :
    (r.timestamp.seconds - s.timestamp.seconds : ℚ) ≤
      exactSeconds (bill usual (slots rows).entries) := by
  have hshows := slots_shows rows
  obtain ⟨e, he, hes⟩ := List.mem_map.1 (hshows.mem_keys_iff.2 (List.mem_map_of_mem hs))
  obtain ⟨f, hf, hfr⟩ := List.mem_map.1 (hshows.mem_keys_iff.2 (List.mem_map_of_mem hr))
  rw [← hes, ← hfr]
  exact span_le_exactSeconds hshows.sorted hshows.seen he hf

end GpuCluster.Usage
