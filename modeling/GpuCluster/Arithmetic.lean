import GpuCluster.Error

/-!
# Bounded arithmetic

Quantities have the width they are stored in. An operation is either checked (a result that does
not fit is a fault) or saturating (it stops at the nearest end of the range).

* `Checked.add32`, `Checked.mul32`, `Checked.addU64`, `Checked.mulU64`, `Checked.addI64`,
  `Checked.subI64`;
* `Checked.FitsI64` : what is in the range of signed 64-bit words;
* `Saturating.sub32`, `Saturating.mul32`, `Saturating.addI64`;
* `ceilDiv` : division rounding up.

Each comes with its value in unbounded arithmetic: a checked operation has a result exactly if that
value fits (`Checked.add32_eq_ok_iff`), a saturating one takes the nearest end
(`Saturating.toNat_mul32`, `Saturating.toInt_addI64`).
-/

namespace GpuCluster

namespace Checked

/-- The sum of two 32-bit quantities, if it is one. -/
def add32 (a b : UInt32) : Except Fault UInt32 :=
  if a.toNat + b.toNat < UInt32.size then .ok (a + b) else .error (.overflow .add)

/-- The product of two 32-bit quantities, if it is one. -/
def mul32 (a b : UInt32) : Except Fault UInt32 :=
  if a.toNat * b.toNat < UInt32.size then .ok (a * b) else .error (.overflow .multiply)

/-- The sum of two 64-bit quantities, if it is one. -/
def addU64 (a b : UInt64) : Except Fault UInt64 :=
  if a.toNat + b.toNat < UInt64.size then .ok (a + b) else .error (.overflow .add)

/-- The product of two 64-bit quantities, if it is one. -/
def mulU64 (a b : UInt64) : Except Fault UInt64 :=
  if a.toNat * b.toNat < UInt64.size then .ok (a * b) else .error (.overflow .multiply)

/-- An integer as a signed 64-bit word, if it fits one. -/
def fitI64 (op : ArithmeticOp) (x : Int) : Except Fault Int64 :=
  if Int64.minValue.toInt ≤ x ∧ x ≤ Int64.maxValue.toInt then .ok (Int64.ofInt x)
  else .error (.overflow op)

/-- The sum of two signed 64-bit words, if it is one. -/
def addI64 (a b : Int64) : Except Fault Int64 := fitI64 .add (a.toInt + b.toInt)

/-- The difference of two signed 64-bit words, if it is one. -/
def subI64 (a b : Int64) : Except Fault Int64 := fitI64 .subtract (a.toInt - b.toInt)

theorem add32_eq_ok_iff {a b c : UInt32} : add32 a b = .ok c ↔ c.toNat = a.toNat + b.toNat := by
  have hc := c.toNat_lt
  unfold add32
  split
  next h =>
    simp only [UInt32.size] at h
    rw [Except.ok.injEq, ← UInt32.toNat_inj, UInt32.toNat_add, Nat.mod_eq_of_lt h, eq_comm]
  next h =>
    simp only [UInt32.size] at h
    simp only [reduceCtorEq, false_iff]
    omega

theorem mul32_eq_ok_iff {a b c : UInt32} : mul32 a b = .ok c ↔ c.toNat = a.toNat * b.toNat := by
  have hc := c.toNat_lt
  unfold mul32
  split
  next h =>
    simp only [UInt32.size] at h
    rw [Except.ok.injEq, ← UInt32.toNat_inj, UInt32.toNat_mul, Nat.mod_eq_of_lt h, eq_comm]
  next h =>
    simp only [UInt32.size] at h
    simp only [reduceCtorEq, false_iff]
    omega

theorem addU64_eq_ok_iff {a b c : UInt64} : addU64 a b = .ok c ↔ c.toNat = a.toNat + b.toNat := by
  have hc := c.toNat_lt
  unfold addU64
  split
  next h =>
    simp only [UInt64.size] at h
    rw [Except.ok.injEq, ← UInt64.toNat_inj, UInt64.toNat_add, Nat.mod_eq_of_lt h, eq_comm]
  next h =>
    simp only [UInt64.size] at h
    simp only [reduceCtorEq, false_iff]
    omega

theorem fitI64_eq_ok_iff {op : ArithmeticOp} {x : Int} {c : Int64} :
    fitI64 op x = .ok c ↔ c.toInt = x := by
  have h1 := c.minValue_le_toInt
  have h2 := c.toInt_le
  unfold fitI64
  split
  next h =>
    rw [Int64.toInt_minValue, Int64.toInt_maxValue] at h
    rw [Except.ok.injEq, ← Int64.toInt_inj, Int64.toInt_ofInt_of_le h.1 (by omega), eq_comm]
  next h =>
    simp only [reduceCtorEq, false_iff]
    intro hx
    exact h (hx ▸ ⟨h1, h2⟩)

/-- An integer lies in the range of signed 64-bit words. -/
def FitsI64 (x : Int) : Prop := Int64.minValue.toInt ≤ x ∧ x ≤ Int64.maxValue.toInt

instance (x : Int) : Decidable (FitsI64 x) := inferInstanceAs (Decidable (_ ∧ _))

theorem fitI64_of_fits {op : ArithmeticOp} {x : Int} (h : FitsI64 x) :
    fitI64 op x = .ok (Int64.ofInt x) := if_pos h

theorem fitI64_of_not_fits {op : ArithmeticOp} {x : Int} (h : ¬FitsI64 x) :
    fitI64 op x = .error (.overflow op) := if_neg h

theorem toInt_ofInt_of_fits {x : Int} (h : FitsI64 x) : (Int64.ofInt x).toInt = x := by
  have hfit : fitI64 .add x = .ok (Int64.ofInt x) := fitI64_of_fits h
  exact fitI64_eq_ok_iff.1 hfit

theorem fitsI64_toInt (w : Int64) : FitsI64 w.toInt := by
  refine ⟨w.minValue_le_toInt, ?_⟩
  rw [Int64.toInt_maxValue]
  exact Int.le_sub_one_of_lt w.toInt_lt

end Checked

namespace Saturating

/-- The difference of two 32-bit quantities, zero instead of a negative one. -/
def sub32 (a b : UInt32) : UInt32 := if b ≤ a then a - b else 0

/-- The product of two 32-bit quantities, the largest one if it is larger. -/
def mul32 (a b : UInt32) : UInt32 :=
  if a.toNat * b.toNat < UInt32.size then a * b else UInt32.ofNat (UInt32.size - 1)

/-- The sum of two signed words, the nearest end of the range if it lies outside. -/
def addI64 (a b : Int64) : Int64 :=
  let sum := a.toInt + b.toInt
  if sum < Int64.minValue.toInt then Int64.minValue
  else if Int64.maxValue.toInt < sum then Int64.maxValue
  else Int64.ofInt sum

@[simp] theorem toNat_sub32 (a b : UInt32) : (sub32 a b).toNat = a.toNat - b.toNat := by
  unfold sub32
  split
  next h => exact UInt32.toNat_sub_of_le a b h
  next h =>
    have : ¬b.toNat ≤ a.toNat := fun hn => h (UInt32.le_iff_toNat_le.2 hn)
    simp; omega

@[simp] theorem toNat_mul32 (a b : UInt32) :
    (mul32 a b).toNat = min (a.toNat * b.toNat) (UInt32.size - 1) := by
  unfold mul32
  split
  next h =>
    simp only [UInt32.size] at *
    rw [UInt32.toNat_mul, Nat.mod_eq_of_lt h]; omega
  next h =>
    simp only [UInt32.size] at *
    simp; omega

theorem toInt_addI64 (a b : Int64) : (addI64 a b).toInt =
    max Int64.minValue.toInt (min Int64.maxValue.toInt (a.toInt + b.toInt)) := by
  have hends : Int64.minValue.toInt ≤ Int64.maxValue.toInt := by decide
  unfold addI64
  dsimp only
  split
  next h => omega
  next h =>
    split
    next h' => omega
    next h' =>
      rw [Int64.toInt_minValue] at *
      rw [Int64.toInt_maxValue] at *
      rw [Int64.toInt_ofInt_of_le (by omega) (by omega)]
      omega

end Saturating

/-- Division rounding any remainder up. -/
def ceilDiv (a b : UInt32) : UInt32 := if a % b = 0 then a / b else a / b + 1

theorem toNat_ceilDiv (a b : UInt32) :
    (ceilDiv a b).toNat = a.toNat / b.toNat + if a.toNat % b.toNat = 0 then 0 else 1 := by
  have ha := a.toNat_lt
  have hz : a % b = 0 ↔ a.toNat % b.toNat = 0 := by
    rw [← UInt32.toNat_inj, UInt32.toNat_mod]; rfl
  unfold ceilDiv
  by_cases h : a.toNat % b.toNat = 0
  · rw [if_pos (hz.2 h), if_pos h, UInt32.toNat_div]; rfl
  · rw [if_neg (mt hz.1 h), if_neg h, UInt32.toNat_add, UInt32.toNat_div]
    have hb : b.toNat ≠ 1 := fun hb => h (by rw [hb, Nat.mod_one])
    have : a.toNat / b.toNat + 1 < 2 ^ 32 := by
      rcases Nat.eq_zero_or_pos b.toNat with h0 | h0
      · rw [h0]; simp
      · have : a.toNat / b.toNat ≤ a.toNat / 2 := Nat.div_le_div_left (by omega) (by omega)
        omega
    exact Nat.mod_eq_of_lt this

end GpuCluster
