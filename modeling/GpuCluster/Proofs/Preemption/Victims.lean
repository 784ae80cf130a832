import Mathlib.Algebra.GroupWithZero.Nat
import Mathlib.Data.List.Pairwise
import Mathlib.Order.Compare
import GpuCluster.Preemption.Cumulative
import GpuCluster.Proofs.Action

/-!
# Who goes, and in which order

* `VictimOrder.Before` : a job goes strictly before another; `compare_isLE_iff`;
* `sort_pairwise`, `sort_eq_of_perm` : the line is in this order, and without ties it depends only
  on who stands in it;
* `toNat_gpusNeeded` : the GPUs that are needed, in unbounded arithmetic;
* `Fills`, `selectVictims_take` : the selection never overflows and answers the longest first part
  of the line that stays within its budget.
-/

namespace GpuCluster

theorem Instant.isLE_compare (t u : Instant) : (t.compare u).isLE = true ↔ ¬ u < t := by
  unfold Instant.compare
  split
  next h =>
    refine iff_of_true rfl fun h' => ?_
    rw [Instant.lt_def] at h h'
    omega
  next h =>
    split
    next h' => exact iff_of_false nofun fun hn => hn h'
    next h' => exact iff_of_true rfl h'

namespace Preemption

/-! ## The order -/

namespace VictimOrder

/-- The job goes strictly before the other: it is less important, or as important and newer, or
older if the oldest go first. -/
def Before : VictimOrder → Job → Job → Prop
  | newestFirst, a, b => a.priorityValue < b.priorityValue ∨
    a.priorityValue = b.priorityValue ∧ b.createdAt < a.createdAt
  | oldestFirst, a, b => a.priorityValue < b.priorityValue ∨
    a.priorityValue = b.priorityValue ∧ a.createdAt < b.createdAt

variable {o : VictimOrder} {a b c : Job} {js ks : List Job}

theorem compare_isLE_iff : (o.compare a b).isLE = true ↔ ¬ o.Before b a := by
  cases o
  all_goals
    simp only [VictimOrder.compare, Before, Ordering.isLE_then_iff_or, Int.compare_eq_lt,
      Int.compare_eq_eq, Instant.isLE_compare, Int32.lt_iff_toInt_lt, ← Int32.toInt_inj,
      Instant.lt_def]
    omega

theorem not_before_trans (hab : ¬ o.Before b a) (hbc : ¬ o.Before c b) : ¬ o.Before c a := by
  cases o
  all_goals
    simp only [Before, Int32.lt_iff_toInt_lt, ← Int32.toInt_inj, Instant.lt_def] at *
    omega

theorem Before.asymm (h : o.Before a b) : ¬ o.Before b a := by
  cases o
  all_goals
    simp only [Before, Int32.lt_iff_toInt_lt, ← Int32.toInt_inj, Instant.lt_def] at *
    omega

/-- Jobs that go neither before nor after each other share priority and age. -/
theorem tie_of_not_before (hab : ¬ o.Before a b) (hba : ¬ o.Before b a) :
    a.priorityValue = b.priorityValue ∧ a.createdAt = b.createdAt := by
  rw [← Int32.toInt_inj]
  cases o
  all_goals
    simp only [Before, Int32.lt_iff_toInt_lt, ← Int32.toInt_inj, Instant.lt_def] at hab hba
    exact ⟨by omega, Instant.eq_of_parts (by omega) (by omega)⟩

theorem sort_perm (o : VictimOrder) (js : List Job) : (o.sort js).Perm js :=
  List.mergeSort_perm ..

/-- No job of the line goes before an earlier one. -/
theorem sort_pairwise (o : VictimOrder) (js : List Job) :
    (o.sort js).Pairwise fun a b => ¬ o.Before b a := by
  have hsorted : (o.sort js).Pairwise fun a b => (o.compare a b).isLE = true := by
    refine List.pairwise_mergeSort (fun a b c hab hbc => ?_) (fun a b => ?_) js
    · rw [compare_isLE_iff] at *
      exact not_before_trans hab hbc
    · rw [Bool.or_eq_true, compare_isLE_iff, compare_isLE_iff]
      exact or_iff_not_imp_left.2 fun h => (not_not.1 h).asymm
  exact hsorted.imp compare_isLE_iff.1

/-- Without ties the line depends only on who stands in it. -/
theorem sort_eq_of_perm (h : js.Perm ks) (hties : ∀ a ∈ js, ∀ b ∈ js,
    a.priorityValue = b.priorityValue → a.createdAt = b.createdAt → a = b) :
    o.sort js = o.sort ks := by
  have hperm : (o.sort js).Perm (o.sort ks) :=
    (o.sort_perm js).trans (h.trans (o.sort_perm ks).symm)
  refine List.Perm.eq_of_pairwise (fun a b ha hb hba hab => ?_) (o.sort_pairwise js)
    (o.sort_pairwise ks) hperm
  obtain ⟨hvalue, hage⟩ := tie_of_not_before hab hba
  refine hties a ?_ b ?_ hvalue hage
  · exact (o.sort_perm js).mem_iff.1 ha
  · exact (o.sort_perm js).mem_iff.1 (hperm.mem_iff.2 hb)

end VictimOrder

/-! ## The selection -/

variable {js ks : List Job}

theorem toNat_max (x y : UInt32) : (max x y).toNat = max x.toNat y.toNat := by
  show (if x ≤ y then y else x).toNat = _
  split
  next h =>
    rw [UInt32.le_iff_toNat_le] at h
    omega
  next h =>
    rw [UInt32.le_iff_toNat_le] at h
    omega

theorem toNat_gpusNeeded (q : Requirement) :
    (gpusNeeded q).toNat = max q.gpu.toNat ((q.mps.toNat + 9) / 10) := by
  have hmps : (Mps.toGpus q.mps).toNat = (q.mps.toNat + 9) / 10 := by
    have hunits : Mps.unitsPerGpu.toNat = 10 := rfl
    rw [Mps.toGpus, toNat_ceilDiv, hunits]
    split <;> omega
  rw [gpusNeeded, toNat_max, hmps]

theorem gpusNeeded_eq_zero_iff {q : Requirement} :
    gpusNeeded q = 0 ↔ max q.gpu.toNat ((q.mps.toNat + 9) / 10) = 0 := by
  rw [← toNat_gpusNeeded, ← UInt32.toNat_inj]
  rfl

theorem headroom_perm (h : js.Perm ks) : headroom js = headroom ks := by
  refine List.Perm.foldl_eq' (h.map _) (fun x _ y _ z => ?_) _
  rw [← UInt32.toNat_inj]
  simp only [toNat_max]
  omega

def gpusOf (js : List Job) : Nat := (js.map fun j => j.requiredGpu.toNat).sum

theorem gpusOf_cons (j : Job) (js : List Job) : gpusOf (j :: js) = j.requiredGpu.toNat + gpusOf js :=
  List.sum_cons

/-- The line up to `n` stays within a budget, and no longer part of it does. -/
structure Fills (budget : Nat) (line : List Job) (n : Nat) : Prop where
  within : gpusOf (line.take n) ≤ budget
  longest : ∀ m ≤ line.length, gpusOf (line.take m) ≤ budget → m ≤ n

/-- With room for one more job above the threshold, no sum overflows. -/
theorem takeWithin_take {threshold taken : UInt64} (hroom : threshold.toNat + 2 ^ 32 < 2 ^ 64)
    (htaken : taken ≤ threshold) (line : List Job) :
    ∃ n, takeWithin threshold taken line = .ok (line.take n) ∧
      Fills (threshold.toNat - taken.toNat) line n := by
  induction line generalizing taken with
  | nil => exact ⟨0, rfl, Nat.zero_le _, fun m hm _ => hm⟩
  | cons j rest ih =>
    have hgpu := j.requiredGpu.toNat_lt
    rw [UInt64.le_iff_toNat_le] at htaken
    have hsum : Checked.addU64 taken j.requiredGpu.toUInt64 =
        .ok (taken + j.requiredGpu.toUInt64) := by
      rw [Checked.addU64_eq_ok_iff, UInt64.toNat_add, UInt32.toNat_toUInt64]
      exact Nat.mod_eq_of_lt (by omega)
    have hnat := Checked.addU64_eq_ok_iff.1 hsum
    rw [UInt32.toNat_toUInt64] at hnat
    rw [takeWithin, hsum]
    simp only [bind, Except.bind]
    split
    next hle =>
      obtain ⟨n, hn, hfills⟩ := ih hle
      have hwithin := hfills.within
      rw [UInt64.le_iff_toNat_le] at hle
      refine ⟨n + 1, by rw [hn, List.take_succ_cons], ?_, fun m hm hbudget => ?_⟩
      · rw [List.take_succ_cons, gpusOf_cons]
        omega
      · cases m with
        | zero => exact Nat.zero_le _
        | succ m =>
          rw [List.take_succ_cons, gpusOf_cons] at hbudget
          have hlater := hfills.longest m (Nat.le_of_succ_le_succ hm) (by omega)
          omega
    next hle =>
      rw [UInt64.le_iff_toNat_le] at hle
      refine ⟨0, rfl, Nat.zero_le _, fun m _ hbudget => ?_⟩
      cases m with
      | zero => exact Nat.le_refl _
      | succ m =>
        rw [List.take_succ_cons, gpusOf_cons] at hbudget
        omega

/-- The jobs that go are the longest first part of the line within the request and the headroom. -/
theorem selectVictims_take (line : List Job) (requested : UInt32) :
    ∃ n, selectVictims line requested = .ok (line.take n) ∧
      Fills (requested.toNat + (headroom line).toNat) line n := by
  have hneeded := requested.toNat_lt
  have hspare := (headroom line).toNat_lt
  have hsum : (requested.toUInt64 + (headroom line).toUInt64).toNat =
      requested.toNat + (headroom line).toNat := by
    rw [UInt64.toNat_add, UInt32.toNat_toUInt64, UInt32.toNat_toUInt64]
    exact Nat.mod_eq_of_lt (by omega)
  have hnone : 0 ≤ requested.toUInt64 + (headroom line).toUInt64 := by
    rw [UInt64.le_iff_toNat_le]
    exact Nat.zero_le _
  obtain ⟨n, hn, hfills⟩ := takeWithin_take (by omega) hnone line
  rw [hsum] at hfills
  exact ⟨n, hn, hfills⟩

end Preemption

end GpuCluster
