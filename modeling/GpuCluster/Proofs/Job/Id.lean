import Mathlib.Data.Nat.Digits.Defs
import GpuCluster.Job.Id

/-!
# Texts of identities

* `JobId.padded` : hexadecimal digits with leading zeros; `padded_inj` : they determine a number;
* `JobId.toText_injective` : different identities have different texts.
-/

namespace GpuCluster.JobId

theorem digitChar_inj : ∀ m < 16, ∀ n < 16, Nat.digitChar m = Nat.digitChar n → m = n := by
  decide

/-- The hexadecimal digits of a number, with leading zeros up to a width. -/
def padded (width n : Nat) : List Char :=
  List.replicate (width - (Nat.toDigits 16 n).length) '0' ++ Nat.toDigits 16 n

/-- The last digit stands behind those of a sixteenth of the number. -/
theorem padded_succ {width n : Nat} (hwidth : 0 < width) :
    padded (width + 1) n = padded width (n / 16) ++ [Nat.digitChar (n % 16)] := by
  by_cases hn : n < 16
  · obtain ⟨width, rfl⟩ := Nat.exists_eq_succ_of_ne_zero hwidth.ne'
    rw [padded, padded, Nat.div_eq_of_lt hn, Nat.mod_eq_of_lt hn, Nat.toDigits_of_lt_base hn,
      Nat.toDigits_of_lt_base (by decide)]
    exact congrArg (· ++ [Nat.digitChar n]) List.replicate_succ'
  · have hdigits : Nat.toDigits 16 n =
        Nat.toDigits 16 (n / 16) ++ [Nat.digitChar (n % 16)] := by
      have hlast : n % 16 < 16 := Nat.mod_lt n (by decide)
      have happend := Nat.toDigits_append_toDigits (b := 16) (n := n / 16) (by decide)
        (Nat.div_pos (Nat.not_lt.1 hn) (by decide)) hlast
      rw [Nat.div_add_mod, Nat.toDigits_of_lt_base hlast] at happend
      exact happend.symm
    rw [padded, padded, hdigits, List.length_append, List.length_singleton, Nat.add_sub_add_right,
      List.append_assoc]

theorem padded_inj {width m n : Nat} (hm : m < 16 ^ (width + 1)) (hn : n < 16 ^ (width + 1))
    (h : padded (width + 1) m = padded (width + 1) n) : m = n := by
  induction width generalizing m n with
  | zero =>
    have hone : ∀ k < 16, padded 1 k = [Nat.digitChar k] := by
      intro k hk
      rw [padded, Nat.toDigits_of_lt_base hk]
      rfl
    rw [hone m hm, hone n hn] at h
    exact digitChar_inj m hm n hn (List.singleton_inj.1 h)
  | succ width ih =>
    rw [padded_succ (Nat.succ_pos _), padded_succ (Nat.succ_pos _)] at h
    obtain ⟨hfirst, hlast⟩ := List.append_inj' h rfl
    have hdiv : ∀ k, k < 16 ^ (width + 2) → k / 16 < 16 ^ (width + 1) :=
      fun k hk => Nat.div_lt_of_lt_mul (by rwa [← Nat.pow_succ'])
    have hhigh := ih (hdiv m hm) (hdiv n hn) hfirst
    have hlow := digitChar_inj _ (Nat.mod_lt m (by decide)) _ (Nat.mod_lt n (by decide))
      (List.singleton_inj.1 hlast)
    omega

theorem hexDigits_injective {a b : JobId} (h : a.hexDigits = b.hexDigits) : a = b := by
  have hnat := padded_inj a.bits.isLt b.bits.isLt h
  exact congrArg JobId.mk (BitVec.eq_of_toNat_eq hnat)

theorem length_hexDigits (a : JobId) : a.hexDigits.length = 32 := by
  have hlen := Nat.toDigits_length 16 a.bits.toNat 32 (by decide) a.bits.isLt
  rw [hexDigits, List.length_append, List.length_replicate]
  omega

/-- The groups of the text are the digits, so different identities have different texts. -/
theorem toText_injective {a b : JobId} (h : a.toText = b.toText) : a = b := by
  apply hexDigits_injective
  have hla := length_hexDigits a
  have hlb := length_hexDigits b
  have hlist := congrArg String.toList h
  rw [toText, toText, String.toList_ofList, String.toList_ofList] at hlist
  generalize a.hexDigits = d at hla hlist ⊢
  generalize b.hexDigits = e at hlb hlist ⊢
  obtain ⟨hlist, h₅⟩ := List.append_inj' hlist (by simp [hla, hlb])
  obtain ⟨hlist, h₄⟩ := List.append_inj' hlist (by simp [hla, hlb])
  obtain ⟨hlist, h₃⟩ := List.append_inj' hlist (by simp [hla, hlb])
  obtain ⟨h₁, h₂⟩ := List.append_inj' hlist (by simp [hla, hlb])
  have hsplit : ∀ (l : List Char) (n : Nat), l.drop n = (l.drop n).take 4 ++ l.drop (n + 4) := by
    intro l n
    rw [← List.drop_drop, List.take_append_drop]
  have hgroups : ∀ l : List Char, l = l.take 8 ++ ((l.drop 8).take 4 ++ ((l.drop 12).take 4 ++
      ((l.drop 16).take 4 ++ l.drop 20))) := by
    intro l
    rw [← hsplit l 16, ← hsplit l 12, ← hsplit l 8, List.take_append_drop]
  rw [hgroups d, hgroups e, h₁, List.tail_eq_of_cons_eq h₂, List.tail_eq_of_cons_eq h₃,
    List.tail_eq_of_cons_eq h₄, List.tail_eq_of_cons_eq h₅]

end GpuCluster.JobId
