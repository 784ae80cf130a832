import Mathlib.Data.List.TakeWhile
import GpuCluster.Text.Decimal

/-!
# Digits

* `readDigits_eq` : what is read at the front of a text, and what is left;
* `isDigit_of_mem_toString`, `parseU32_toString` : a printed quantity has digits only, and it is
  read back.
-/

namespace GpuCluster.Decimal

variable {c : Char} {l s : List Char}

/-! ## Runs of digits -/

theorem readDigits_go_eq (value count : Nat) (s : List Char) : readDigits.go value count s =
    (Nat.ofDigitChars 10 (s.takeWhile Char.isDigit) value,
      count + (s.takeWhile Char.isDigit).length, s.dropWhile Char.isDigit) := by
  induction s generalizing value count with
  | nil => simp [readDigits.go]
  | cons c rest ih =>
    by_cases hc : c.isDigit = true
    · simp [readDigits.go, hc, ih, digitValue, Nat.ofDigitChars_cons, Nat.mul_comm, Nat.add_comm,
        Nat.add_left_comm]
    · simp [readDigits.go, hc]

/-- The longest run of digits at the front: its value, its length and the rest. -/
theorem readDigits_eq (s : List Char) : readDigits s =
    (Nat.ofDigitChars 10 (s.takeWhile Char.isDigit) 0, (s.takeWhile Char.isDigit).length,
      s.dropWhile Char.isDigit) := by
  rw [readDigits, readDigits_go_eq, Nat.zero_add]

theorem readDigits_of_isDigit (h : ∀ c ∈ s, c.isDigit = true) :
    readDigits s = (Nat.ofDigitChars 10 s 0, s.length, []) := by
  rw [readDigits_eq, List.takeWhile_eq_self_iff.2 h, List.dropWhile_eq_nil_iff.2 h]

/-- A text of digits has no sign. -/
theorem ne_sign_of_isDigit (h : c.isDigit = true) : c ≠ '-' ∧ c ≠ '+' := by
  refine ⟨?_, ?_⟩
  · rintro rfl
    cases h
  · rintro rfl
    cases h

theorem parseInteger_of_isDigit {text : String} (hne : text.toList ≠ [])
    (h : ∀ c ∈ text.toList, c.isDigit = true) :
    parseInteger text = some (Nat.ofDigitChars 10 text.toList 0 : Int) := by
  obtain ⟨c, rest, hlist⟩ := List.exists_cons_of_ne_nil hne
  have hread := readDigits_of_isDigit h
  rw [hlist] at h hread
  obtain ⟨hminus, hplus⟩ := ne_sign_of_isDigit (h c List.mem_cons_self)
  simp [parseInteger, hlist, hminus, hplus, hread]

theorem parseU32_of_isDigit {text : String} (hne : text.toList ≠ [])
    (h : ∀ c ∈ text.toList, c.isDigit = true) :
    parseU32 text = if Nat.ofDigitChars 10 text.toList 0 < UInt32.size then
      some (UInt32.ofNat (Nat.ofDigitChars 10 text.toList 0)) else none := by
  have hinteger := parseInteger_of_isDigit hne h
  obtain ⟨c, rest, hlist⟩ := List.exists_cons_of_ne_nil hne
  have hminus := (ne_sign_of_isDigit (h c (by simp [hlist]))).1
  unfold parseU32
  rw [hinteger, hlist]
  simp [hminus]

/-! ## Printed quantities -/

theorem toList_toString (n : Nat) : (toString n).toList = Nat.toDigits 10 n := by
  rw [Nat.toString_eq_repr, Nat.toList_repr]

theorem isDigit_of_mem_toString {n : Nat} (h : c ∈ (toString n).toList) : c.isDigit = true := by
  rw [toList_toString] at h
  exact Nat.isDigit_of_mem_toDigits (by decide) (by decide) h

theorem not_mem_toString (h : c.isDigit = false) (n : Nat) : c ∉ (toString n).toList := by
  intro hmem
  rw [isDigit_of_mem_toString hmem] at h
  cases h

theorem toString_injective {m n : Nat} (h : toString m = toString n) : m = n := by
  have hdigits := congrArg String.toList h
  rw [toList_toString, toList_toString] at hdigits
  have hvalue := congrArg (Nat.ofDigitChars 10 · 0) hdigits
  simpa only [Nat.ofDigitChars_ten_toDigits] using hvalue

/-- A printed quantity is read back. -/
theorem parseU32_toString (n : UInt32) : parseU32 (toString n.toNat) = some n := by
  have hne : (toString n.toNat).toList ≠ [] := by
    rw [toList_toString]
    exact Nat.toDigits_ne_nil
  rw [parseU32_of_isDigit hne fun c hc => isDigit_of_mem_toString hc, toList_toString,
    Nat.ofDigitChars_ten_toDigits, if_pos n.toNat_lt, UInt32.ofNat_toNat]

end GpuCluster.Decimal
