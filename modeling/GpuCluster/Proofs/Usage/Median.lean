import Mathlib.Algebra.Order.Field.Rat
import Mathlib.Tactic.Linarith
import Mathlib.Tactic.Positivity
import Mathlib.Tactic.Ring
import GpuCluster.Usage.Account

/-!
# The usual interval is a median

The usual interval of some seconds is the median of the positive gaps between neighbours, and is
found without a fault as long as the seconds are dates: the sum of two gaps is then so small that
its thousandfold is a word.

* `differences`, `rises` : the gaps of some seconds, and the positive ones;
* `IsMiddle` : the middle of a list, or the mean of the two in the middle;
* `IsMedian` : what the median of some numbers is;
* `IsMedian.of_perm` : the middle of a sorted list is the median of its elements;
* `exists_medianInterval` : the usual interval of any seconds that lie close enough;
* `medianInterval_isMedian` : the usual interval of ascending dates, and of dates without a rise.
-/

namespace GpuCluster

/-- The length in seconds, exactly. -/
def Duration.exact (d : Duration) : ℚ := d.inSeconds

theorem Duration.exact_eq (d : Duration) : d.exact = d.toNanos / 1000000000 := by
  unfold exact inSeconds toNanos
  push_cast
  ring

@[simp] theorem Duration.exact_ofSeconds (n : Nat) : (ofSeconds n).exact = n := by
  simp [ofSeconds, exact, inSeconds]

theorem Duration.exact_nonneg (d : Duration) : 0 ≤ d.exact := by
  unfold exact inSeconds
  positivity

namespace Usage

variable {seconds values sorted : List Int} {m : ℚ}

/-! ## Medians -/

/-- A number is the middle of a list, or the mean of the two in the middle. -/
def IsMiddle (sorted : List Int) (m : ℚ) : Prop :=
  (sorted.length % 2 = 1 → ∃ v, sorted[sorted.length / 2]? = some v ∧ m = v) ∧
  (sorted.length % 2 = 0 → ∃ a b, sorted[sorted.length / 2 - 1]? = some a ∧
    sorted[sorted.length / 2]? = some b ∧ m = (a + b) / 2)

/-- A number is the median of some numbers. -/
structure IsMedian (values : List Int) (m : ℚ) : Prop where
  between : ∃ lo hi, values.min? = some lo ∧ values.max? = some hi ∧ lo ≤ m ∧ m ≤ hi
  half_le : values.length ≤ 2 * values.countP fun v : Int => (v : ℚ) ≤ m
  le_half : values.length ≤ 2 * values.countP fun v : Int => m ≤ (v : ℚ)
  middle : ∃ sorted : List Int, sorted.Perm values ∧ sorted.Pairwise (· ≤ ·) ∧ IsMiddle sorted m

theorem le_countP_take {α : Type} {l : List α} {n : Nat} {p : α → Bool} (hn : n ≤ l.length)
    (h : ∀ x ∈ l.take n, p x = true) : n ≤ l.countP p := by
  have hall : (l.take n).countP p = (l.take n).length := List.countP_eq_length.2 h
  have hle : (l.take n).countP p ≤ l.countP p := (List.take_sublist n l).countP_le
  rw [hall, List.length_take] at hle
  omega

theorem le_countP_drop {α : Type} {l : List α} {n : Nat} {p : α → Bool}
    (h : ∀ x ∈ l.drop n, p x = true) : l.length - n ≤ l.countP p := by
  have hall : (l.drop n).countP p = (l.drop n).length := List.countP_eq_length.2 h
  have hle : (l.drop n).countP p ≤ l.countP p := (List.drop_sublist n l).countP_le
  rwa [hall, List.length_drop] at hle

section Middle
variable {i : Nat} {v x : Int}

theorem le_of_mem_take (hs : sorted.Pairwise (· ≤ ·)) (hv : sorted[i]? = some v)
    (hx : x ∈ sorted.take (i + 1)) : x ≤ v := by
  obtain ⟨hi, rfl⟩ := List.getElem?_eq_some_iff.1 hv
  obtain ⟨j, hj, rfl⟩ := List.mem_take_iff_getElem.1 hx
  rcases Nat.lt_or_ge j i with hlt | hge
  · exact List.pairwise_iff_getElem.1 hs j i (by omega) hi hlt
  · obtain rfl : j = i := by omega
    exact le_refl _

theorem le_of_mem_drop (hs : sorted.Pairwise (· ≤ ·)) (hv : sorted[i]? = some v)
    (hx : x ∈ sorted.drop i) : v ≤ x := by
  obtain ⟨hi, rfl⟩ := List.getElem?_eq_some_iff.1 hv
  obtain ⟨j, hj, rfl⟩ := List.mem_drop_iff_getElem.1 hx
  rcases Nat.eq_zero_or_pos j with rfl | hpos
  · simp
  · exact List.pairwise_iff_getElem.1 hs i (i + j) hi (by omega) (by omega)

/-- The middle of a sorted list: its first half is not above it, and its second half not below. -/
theorem IsMiddle.halves (hs : sorted.Pairwise (· ≤ ·)) (h : IsMiddle sorted m) :
    (∀ x ∈ sorted.take ((sorted.length + 1) / 2), (x : ℚ) ≤ m) ∧
      ∀ x ∈ sorted.drop (sorted.length / 2), m ≤ (x : ℚ) := by
  rcases Nat.mod_two_eq_zero_or_one sorted.length with heven | hodd
  · obtain ⟨a, b, ha, hb, rfl⟩ := h.2 heven
    have hpos : 0 < sorted.length := by
      obtain ⟨hi, -⟩ := List.getElem?_eq_some_iff.1 ha
      omega
    have hab : (a : ℚ) ≤ b := by
      have hmem : a ∈ sorted.take (sorted.length / 2 + 1) :=
        List.mem_of_getElem? (i := sorted.length / 2 - 1) (by
          rw [List.getElem?_take_of_lt (by omega)]
          exact ha)
      exact_mod_cast le_of_mem_take hs hb hmem
    refine ⟨fun x hx => ?_, fun x hx => ?_⟩
    · rw [show (sorted.length + 1) / 2 = sorted.length / 2 - 1 + 1 by omega] at hx
      have hxa : (x : ℚ) ≤ a := by exact_mod_cast le_of_mem_take hs ha hx
      linarith
    · have hbx : (b : ℚ) ≤ x := by exact_mod_cast le_of_mem_drop hs hb hx
      linarith
  · obtain ⟨v, hv, rfl⟩ := h.1 hodd
    refine ⟨fun x hx => ?_, fun x hx => ?_⟩
    · rw [show (sorted.length + 1) / 2 = sorted.length / 2 + 1 by omega] at hx
      exact_mod_cast le_of_mem_take hs hv hx
    · exact_mod_cast le_of_mem_drop hs hv hx

theorem IsMiddle.length_pos (h : IsMiddle sorted m) : 0 < sorted.length := by
  rcases Nat.mod_two_eq_zero_or_one sorted.length with heven | hodd
  · obtain ⟨a, b, ha, -⟩ := h.2 heven
    obtain ⟨hi, -⟩ := List.getElem?_eq_some_iff.1 ha
    omega
  · omega

end Middle

/-- The middle of a sorted list is the median of its elements. -/
theorem IsMedian.of_perm (hp : sorted.Perm values) (hs : sorted.Pairwise (· ≤ ·))
    (h : IsMiddle sorted m) : IsMedian values m := by
  have hpos := h.length_pos
  obtain ⟨hbelow, habove⟩ := h.halves hs
  have hlow : (sorted.length + 1) / 2 ≤ sorted.countP fun v : Int => (v : ℚ) ≤ m :=
    le_countP_take (by omega) fun x hx => decide_eq_true (hbelow x hx)
  have hhigh : sorted.length - sorted.length / 2 ≤ sorted.countP fun v : Int => m ≤ (v : ℚ) :=
    le_countP_drop fun x hx => decide_eq_true (habove x hx)
  have hne : values ≠ [] := by
    rintro rfl
    rw [hp.length_eq] at hpos
    exact absurd hpos (Nat.lt_irrefl 0)
  obtain ⟨lo, hlo⟩ := Option.isSome_iff_exists.1 (List.isSome_min?_iff.2 hne)
  obtain ⟨hi, hhi⟩ := Option.isSome_iff_exists.1 (List.isSome_max?_iff.2 hne)
  refine ⟨⟨lo, hi, hlo, hhi, ?_, ?_⟩, ?_, ?_, sorted, hp, hs, h⟩
  -- Half of the elements are not above the middle, so one is, and the least is not above that one.
  · obtain ⟨x, hx, hxm⟩ := List.countP_pos_iff.1 (by omega :
      0 < sorted.countP fun v : Int => (v : ℚ) ≤ m)
    have hle : (lo : ℚ) ≤ x := by
      exact_mod_cast (List.min?_eq_some_iff.1 hlo).2 x (hp.mem_iff.1 hx)
    exact le_trans hle (of_decide_eq_true hxm)
  · obtain ⟨x, hx, hmx⟩ := List.countP_pos_iff.1 (by omega :
      0 < sorted.countP fun v : Int => m ≤ (v : ℚ))
    have hle : (x : ℚ) ≤ hi := by
      exact_mod_cast (List.max?_eq_some_iff.1 hhi).2 x (hp.mem_iff.1 hx)
    exact le_trans (of_decide_eq_true hmx) hle
  · rw [← hp.length_eq, ← hp.countP_eq]
    omega
  · rw [← hp.length_eq, ← hp.countP_eq]
    omega

/-- A median lies between any bounds of the numbers. -/
theorem IsMedian.between_bounds (h : IsMedian values m) {lo hi : Nat}
    (hv : ∀ v ∈ values, (lo : Int) ≤ v ∧ v ≤ hi) : (lo : ℚ) ≤ m ∧ m ≤ hi := by
  obtain ⟨a, b, ha, hb, hle, hle'⟩ := h.between
  have hlo : (lo : ℚ) ≤ a := by exact_mod_cast (hv a (List.min?_mem ha)).1
  have hhi : (b : ℚ) ≤ hi := by exact_mod_cast (hv b (List.max?_mem hb)).2
  exact ⟨le_trans hlo hle, le_trans hle' hhi⟩

/-! ## Gaps -/

/-- The differences of neighbours. -/
def differences (seconds : List Int) : List Int :=
  List.zipWith (fun a b => b - a) seconds seconds.tail

/-- The positive differences of neighbours. -/
def rises (seconds : List Int) : List Int := (differences seconds).filter (0 < ·)

theorem differences_cons_cons (a b : Int) (rest : List Int) :
    differences (a :: b :: rest) = (b - a) :: differences (b :: rest) := rfl

theorem length_differences (seconds : List Int) :
    (differences seconds).length = seconds.length - 1 := by
  rw [differences, List.length_zipWith, List.length_tail]
  omega

theorem exists_of_mem_differences {g : Int} (h : g ∈ differences seconds) :
    ∃ a ∈ seconds, ∃ b ∈ seconds, g = b - a := by
  obtain ⟨i, hi, rfl⟩ := List.mem_iff_getElem.1 h
  have hlength := length_differences seconds
  refine ⟨seconds.get ⟨i, by omega⟩, List.getElem_mem _, seconds.get ⟨i + 1, by omega⟩,
    List.getElem_mem _, ?_⟩
  simp only [differences, List.getElem_zipWith, List.getElem_tail, List.get_eq_getElem]

/-- Ascending seconds only rise. -/
theorem rises_of_pairwise (h : seconds.Pairwise (· < ·)) : rises seconds = differences seconds := by
  induction seconds with
  | nil => rfl
  | cons a rest ih =>
    cases rest with
    | nil => rfl
    | cons b others =>
      obtain ⟨hbefore, hrest⟩ := List.pairwise_cons.1 h
      have hab : a < b := hbefore b List.mem_cons_self
      have hrises := ih hrest
      unfold rises at hrises ⊢
      rw [differences_cons_cons, List.filter_cons_of_pos (by simpa using hab), hrises]

/-! ## Words -/

/-- The time in which all dates lie, in seconds. -/
def keptSpan : Nat := (Instant.pastLast - Instant.first.seconds).toNat

theorem keptSpan_eq : keptSpan = 16544868105600 := by decide

/-- The gaps of seconds that are not too far apart are words. -/
theorem exists_gaps (hspan : ∀ a ∈ seconds, ∀ b ∈ seconds, b - a < keptSpan) :
    ∃ gs, gaps seconds = .ok gs ∧ gs.map Int64.toInt = differences seconds := by
  induction seconds with
  | nil => exact ⟨[], rfl, rfl⟩
  | cons a rest ih =>
    cases rest with
    | nil => exact ⟨[], rfl, rfl⟩
    | cons b others =>
      have ha : a ∈ a :: b :: others := List.mem_cons_self
      have hb : b ∈ a :: b :: others := List.mem_cons_of_mem _ List.mem_cons_self
      have hup := hspan a ha b hb
      have hdown := hspan b hb a ha
      rw [keptSpan_eq] at hup hdown
      have hfits : Checked.FitsI64 (b - a) := by
        rw [Checked.FitsI64, Int64.toInt_minValue, Int64.toInt_maxValue]
        omega
      have hgap : Checked.fitI64 .subtract (b - a) = .ok (Int64.ofInt (b - a)) :=
        Checked.fitI64_of_fits hfits
      obtain ⟨gs, hgs, hvalues⟩ := ih fun c hc d hd =>
        hspan c (List.mem_cons_of_mem _ hc) d (List.mem_cons_of_mem _ hd)
      refine ⟨Int64.ofInt (b - a) :: gs, ?_, ?_⟩
      · simp only [gaps, hgap, hgs]
        rfl
      · rw [List.map_cons, hvalues, Checked.toInt_ofInt_of_fits hfits, differences_cons_cons]

theorem toNat_toUInt64_of_pos {x : Int64} (h : 0 < x) : (x.toUInt64.toNat : Int) = x.toInt := by
  have hpos : 0 < x.toInt := Int64.lt_iff_toInt_lt.1 h
  rw [Int64.toNat_toUInt64_of_le (Int64.le_of_lt h), Int64.toNatClampNeg,
    Int.toNat_of_nonneg (le_of_lt hpos)]

theorem pairwise_mergeSort_le (l : List UInt64) :
    (l.mergeSort fun a b => a ≤ b).Pairwise (· ≤ ·) := by
  have htrans : ∀ a b c : UInt64, decide (a ≤ b) = true → decide (b ≤ c) = true →
      decide (a ≤ c) = true := by
    intro a b c hab hbc
    exact decide_eq_true (UInt64.le_trans (of_decide_eq_true hab) (of_decide_eq_true hbc))
  have htotal : ∀ a b : UInt64, (decide (a ≤ b) || decide (b ≤ a)) = true := by
    intro a b
    simpa only [Bool.or_eq_true, decide_eq_true_eq] using UInt64.le_total a b
  exact (List.pairwise_mergeSort htrans htotal l).imp of_decide_eq_true

/-- The positive gaps are the rises, sorted. -/
theorem exists_positiveGaps (hspan : ∀ a ∈ seconds, ∀ b ∈ seconds, b - a < keptSpan) :
    ∃ gs, positiveGaps seconds = .ok gs ∧ (gs.map fun g => (g.toNat : Int)).Perm (rises seconds) ∧
      (gs.map fun g => (g.toNat : Int)).Pairwise (· ≤ ·) := by
  obtain ⟨all, hall, hvalues⟩ := exists_gaps hspan
  have hrun : positiveGaps seconds =
      .ok (((all.filter (0 < ·)).map Int64.toUInt64).mergeSort fun a b => a ≤ b) := by
    unfold positiveGaps
    simp only [hall]
    rfl
  refine ⟨_, hrun, ?_, ?_⟩
  · have hperm := (List.mergeSort_perm ((all.filter (0 < ·)).map Int64.toUInt64)
      fun a b => a ≤ b).map fun g => (g.toNat : Int)
    have hkept : ((all.filter (0 < ·)).map Int64.toUInt64).map (fun g => (g.toNat : Int)) =
        rises seconds := by
      rw [rises, ← hvalues, List.filter_map, List.map_map]
      have hpos : (fun g : Int => decide (0 < g)) ∘ Int64.toInt = fun x => decide (0 < x) := by
        funext x
        exact decide_eq_decide.2 (Int64.lt_iff_toInt_lt (x := 0)).symm
      rw [hpos]
      exact List.map_congr_left fun x hx =>
        toNat_toUInt64_of_pos (of_decide_eq_true (List.mem_filter.1 hx).2)
    rw [hkept] at hperm
    exact hperm
  · refine List.pairwise_map.2 ((pairwise_mergeSort_le _).imp fun hab => ?_)
    exact_mod_cast UInt64.le_iff_toNat_le.1 hab

/-- The mean of two numbers of seconds that are not too large is exact. -/
theorem mean_ok {a b : UInt64} (h : a.toNat + b.toNat ≤ 2 * keptSpan) :
    ∃ d, mean a b = .ok d ∧ d.exact = (a.toNat + b.toNat : ℚ) / 2 := by
  rw [keptSpan_eq] at h
  obtain ⟨sum, hsum⟩ : ∃ sum, Checked.addU64 a b = .ok sum := by
    refine ⟨_, if_pos ?_⟩
    unfold UInt64.size
    omega
  have hvalue : sum.toNat = a.toNat + b.toNat := Checked.addU64_eq_ok_iff.1 hsum
  have hfits : sum.toNat * (1000 : UInt64).toNat < UInt64.size := by
    unfold UInt64.size
    change sum.toNat * 1000 < _
    omega
  have hproduct : Checked.mulU64 sum 1000 = .ok (sum * 1000) := if_pos hfits
  have hhalf : (sum * 1000 / 2).toNat = (a.toNat + b.toNat) * 500 := by
    rw [UInt64.toNat_div, UInt64.toNat_mul, Nat.mod_eq_of_lt hfits, hvalue]
    change (a.toNat + b.toNat) * 1000 / 2 = _
    omega
  refine ⟨.ofMillis ((a.toNat + b.toNat) * 500), ?_, ?_⟩
  · unfold mean
    rw [← hhalf]
    simp only [hsum]
    change (Checked.mulU64 sum 1000).bind _ = _
    rw [hproduct]
    rfl
  · rw [Duration.exact_eq, Duration.toNanos_ofMillis]
    push_cast
    ring

/-- The middle of numbers of seconds that are not too large is found, exactly. -/
theorem median_ok {sorted : List UInt64} (hne : sorted ≠ [])
    (h : ∀ g ∈ sorted, g.toNat ≤ keptSpan) :
    ∃ d, median sorted = .ok d ∧ IsMiddle (sorted.map fun g => (g.toNat : Int)) d.exact := by
  have hlength := List.length_pos_of_ne_nil hne
  have hat : ∀ i, i < sorted.length →
      (sorted.map fun g => (g.toNat : Int))[i]? = some ((sorted.getD i 0).toNat : Int) := by
    intro i hi
    rw [List.getElem?_map, List.getD_eq_getElem?_getD, List.getElem?_eq_getElem hi]
    rfl
  unfold IsMiddle median
  rw [List.length_map]
  dsimp only
  rcases Nat.mod_two_eq_zero_or_one sorted.length with heven | hodd
  · have hsmall : ∀ i, i < sorted.length → (sorted.getD i 0).toNat ≤ keptSpan := by
      intro i hi
      rw [List.getD_eq_getElem?_getD, List.getElem?_eq_getElem hi]
      exact h _ (List.getElem_mem hi)
    have ha := hsmall (sorted.length / 2 - 1) (by omega)
    have hb := hsmall (sorted.length / 2) (by omega)
    obtain ⟨d, hd, hexact⟩ := mean_ok (a := sorted.getD (sorted.length / 2 - 1) 0)
      (b := sorted.getD (sorted.length / 2) 0) (by omega)
    refine ⟨d, ?_, fun hodd => absurd hodd (by omega), fun _ => ?_⟩
    · rw [if_neg (by omega)]
      exact hd
    · refine ⟨_, _, hat _ (by omega), hat _ (by omega), ?_⟩
      rw [hexact]
      push_cast
      rfl
  · refine ⟨_, if_pos hodd, fun _ => ⟨_, hat _ (by omega), ?_⟩,
      fun heven => absurd heven (by omega)⟩
    rw [Duration.exact_ofSeconds]
    push_cast
    rfl

/-! ## The usual interval -/

theorem gaps_shift (k : Int) : gaps (seconds.map (· + k)) = gaps seconds := by
  induction seconds with
  | nil => rfl
  | cons a rest ih =>
    cases rest with
    | nil => rfl
    | cons b others =>
      simp only [List.map_cons, gaps, add_sub_add_right_eq_sub] at ih ⊢
      rw [ih]

theorem medianInterval_shift (seconds : List Int) (k : Int) :
    medianInterval (seconds.map (· + k)) = medianInterval seconds := by
  unfold medianInterval positiveGaps
  rw [gaps_shift]

/-- The usual interval is the median of the rises; without one it is the interval assumed. -/
theorem exists_medianInterval (hspan : ∀ a ∈ seconds, ∀ b ∈ seconds, b - a < keptSpan) :
    ∃ m, medianInterval seconds = .ok m ∧ (rises seconds = [] → m = defaultInterval) ∧
      (rises seconds ≠ [] → IsMedian (rises seconds) m.exact) := by
  obtain ⟨gs, hgs, hperm, hsorted⟩ := exists_positiveGaps hspan
  cases gs with
  | nil =>
    have hnone : rises seconds = [] := hperm.symm.eq_nil
    refine ⟨defaultInterval, ?_, fun _ => rfl, fun hne => absurd hnone hne⟩
    rw [medianInterval, hgs]
    rfl
  | cons g rest =>
    have hne : g :: rest ≠ [] := List.cons_ne_nil g rest
    have hrun : medianInterval seconds = median (g :: rest) := by
      rw [medianInterval, hgs]
      rfl
    have hsmall : ∀ x ∈ g :: rest, x.toNat ≤ keptSpan := by
      intro x hx
      have hmem := hperm.mem_iff.1 (List.mem_map_of_mem hx)
      obtain ⟨a, ha, b, hb, heq⟩ := exists_of_mem_differences (List.mem_filter.1 hmem).1
      have := hspan a ha b hb
      omega
    obtain ⟨m, hm, hmiddle⟩ := median_ok hne hsmall
    refine ⟨m, hrun.trans hm, fun hnone => ?_, fun _ => .of_perm hperm hsorted hmiddle⟩
    rw [hnone] at hperm
    exact absurd hperm.eq_nil (List.cons_ne_nil _ _)

/-- Dates have a usual interval, without any fault. It is the median of the gaps between ascending
ones, with half a second where the mean of two gaps has one, and depends on the gaps only. Without
a gap that is positive it is thirty seconds. -/
theorem medianInterval_isMedian :
    (∀ seconds : List Int, (∀ t ∈ seconds, Instant.first.seconds ≤ t ∧ t < Instant.pastLast) →
      seconds.Pairwise (· < ·) → 2 ≤ seconds.length →
      ∃ m, medianInterval seconds = .ok m ∧ 0 < m.exact ∧ IsMedian (differences seconds) m.exact ∧
        ∀ k, medianInterval (seconds.map (· + k)) = .ok m) ∧
    (∀ seconds : List Int, (∀ t ∈ seconds, Instant.first.seconds ≤ t ∧ t < Instant.pastLast) →
      (∀ g ∈ differences seconds, g ≤ 0) → medianInterval seconds = .ok (.ofSeconds 30)) := by
  have hspan : ∀ seconds : List Int,
      (∀ t ∈ seconds, Instant.first.seconds ≤ t ∧ t < Instant.pastLast) →
      ∀ a ∈ seconds, ∀ b ∈ seconds, b - a < keptSpan := by
    intro seconds hdates a ha b hb
    have hfirst := (hdates a ha).1
    have hlast := (hdates b hb).2
    unfold keptSpan
    omega
  constructor
  · intro seconds hdates hsorted htwo
    obtain ⟨m, hm, -, hmedian⟩ := exists_medianInterval (hspan seconds hdates)
    have hrises := rises_of_pairwise hsorted
    have hlength := length_differences seconds
    have hne : rises seconds ≠ [] := by
      rw [hrises]
      exact List.ne_nil_of_length_pos (by omega)
    have hmed := hmedian hne
    refine ⟨m, hm, ?_, hrises ▸ hmed, fun k => (medianInterval_shift seconds k).trans hm⟩
    obtain ⟨lo, hi, hlo, -, hle, -⟩ := hmed.between
    have hpos : 0 < lo := of_decide_eq_true (List.mem_filter.1 (List.min?_mem hlo)).2
    exact lt_of_lt_of_le (by exact_mod_cast hpos) hle
  · intro seconds hdates hfall
    obtain ⟨m, hm, hdefault, -⟩ := exists_medianInterval (hspan seconds hdates)
    have hnone : rises seconds = [] :=
      List.filter_eq_nil_iff.2 fun g hg => by simpa using hfall g hg
    rw [hm, hdefault hnone, defaultInterval]

/-- Two gaps of ten and fifteen seconds, and two samples in one second. -/
theorem medianInterval_isMedian_uneven :
    (∃ m, medianInterval [0, 10, 25] = .ok m ∧ 0 < m.exact ∧ IsMedian [10, 15] m.exact ∧
      ∀ k, medianInterval [0 + k, 10 + k, 25 + k] = .ok m) ∧
    medianInterval [100, 100] = .ok (.ofSeconds 30) :=
  ⟨medianInterval_isMedian.1 [0, 10, 25] (by decide) (by decide) (by decide),
    medianInterval_isMedian.2 [100, 100] (by decide) (by decide)⟩

example : medianInterval [0, 10, 25] = .ok (.ofMillis 12500) := by cbv

end Usage

end GpuCluster
