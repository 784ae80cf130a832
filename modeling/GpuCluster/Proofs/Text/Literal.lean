import GpuCluster.Proofs.Text.Decimal

/-!
# Floating-point literals

* `Decimal.Fraction`, `Decimal.Power` : what may follow the whole digits of a numeral;
* `Decimal.IsNumeral` : digits with an optional fraction and an optional power, at least one digit;
* `Decimal.IsFloat` : a word for infinity or an undefined value, or a numeral, after an optional
  sign; with its value;
* `parseFloat_eq_ok_iff` : these are the texts that are read, and the values they are read as.
-/

namespace GpuCluster.Decimal

variable {s w r : List Char} {k power : Int} {value : Nat} {negative : Bool} {n : Numeral}
  {x : Float}

/-! ## Digits -/

def Digits (s : List Char) : Prop := ∀ c ∈ s, c.isDigit = true

instance (s : List Char) : Decidable (Digits s) :=
  decidable_of_iff (s.all Char.isDigit = true) List.all_eq_true

/-- The number that digits stand for. -/
def valueOf (s : List Char) : Nat := Nat.ofDigitChars 10 s 0

/-- Digits behind others. -/
theorem valueOf_append (s r : List Char) :
    valueOf (s ++ r) = valueOf s * Nat.pow 10 r.length + valueOf r := by
  rw [valueOf, Nat.ofDigitChars_append, Nat.ofDigitChars_eq_ofDigitChars_zero, Nat.mul_comm]
  rfl

/-- The text does not go on with a digit. -/
def Stops (s : List Char) : Prop := ∀ c ∈ s.head?, c.isDigit = false

/-- All digits at the front are read. -/
theorem readDigits_append (hw : Digits w) (hr : Stops r) :
    readDigits (w ++ r) = (valueOf w, w.length, r) := by
  have htake : r.takeWhile Char.isDigit = [] ∧ r.dropWhile Char.isDigit = r := by
    cases r with
    | nil => exact ⟨rfl, rfl⟩
    | cons c rest =>
      have hc : ¬ c.isDigit = true := by simp [hr c rfl]
      exact ⟨List.takeWhile_cons_of_neg hc, List.dropWhile_cons_of_neg hc⟩
  rw [readDigits_eq, List.takeWhile_append_of_pos hw, List.dropWhile_append_of_pos hw, htake.1,
    htake.2, List.append_nil]
  rfl

theorem readDigits_split (s : List Char) :
    ∃ w r, s = w ++ r ∧ Digits w ∧ Stops r ∧ readDigits s = (valueOf w, w.length, r) := by
  refine ⟨s.takeWhile Char.isDigit, s.dropWhile Char.isDigit, List.takeWhile_append_dropWhile.symm,
    fun c hc => List.mem_takeWhile_imp hc, fun c hc => ?_, readDigits_eq s⟩
  have hnot := List.head?_dropWhile_not Char.isDigit s
  rw [Option.mem_def.1 hc] at hnot
  simpa using hnot

/-! ## Numerals -/

/-- Nothing, or a point and digits. -/
inductive Fraction : List Char → List Char → Prop
  | none : Fraction [] []
  | point {digits : List Char} (h : Digits digits) : Fraction ('.' :: digits) digits

/-- Nothing, or the letter of a power, an optional sign and at least one digit. -/
inductive Power : List Char → Int → Prop
  | none : Power [] 0
  | plain {e : Char} {digits : List Char} (he : e = 'e' ∨ e = 'E') (h : Digits digits)
      (hne : digits ≠ []) : Power (e :: digits) (valueOf digits)
  | plus {e : Char} {digits : List Char} (he : e = 'e' ∨ e = 'E') (h : Digits digits)
      (hne : digits ≠ []) : Power (e :: '+' :: digits) (valueOf digits)
  | minus {e : Char} {digits : List Char} (he : e = 'e' ∨ e = 'E') (h : Digits digits)
      (hne : digits ≠ []) : Power (e :: '-' :: digits) (-(valueOf digits : Int))

/-- Digits with an optional fraction and an optional power, at least one digit before the power: a
text, the number of all its digits, and the power of ten that it is multiplied with. -/
inductive IsNumeral : List Char → Nat → Int → Prop
  | intro {whole fraction digits power : List Char} {k : Int} (hwhole : Digits whole)
      (hfraction : Fraction fraction digits) (hpower : Power power k) (hne : whole ++ digits ≠ []) :
      IsNumeral (whole ++ (fraction ++ power)) (valueOf (whole ++ digits)) (k - digits.length)

theorem Power.stops (h : Power s k) : Stops s := by
  cases h with
  | none => nofun
  | plain he _ _ | plus he _ _ | minus he _ _ =>
    rintro c ⟨⟩
    rcases he with rfl | rfl <;> rfl

theorem Power.head?_ne (h : Power s k) : s.head? ≠ some '.' := by
  cases h with
  | none => nofun
  | plain he _ _ | plus he _ _ | minus he _ _ =>
    rintro ⟨⟩
    rcases he with h | h <;> cases h

theorem Fraction.stops {digits : List Char} (h : Fraction s digits) (hr : Stops r) :
    Stops (s ++ r) := by
  cases h with
  | none => exact hr
  | point _ =>
    rintro c ⟨⟩
    rfl

theorem readExponent_of_power (h : Power s k) (hne : s ≠ []) : readExponent s = some (k, []) := by
  have hread {digits : List Char} (hd : Digits digits) :
      readDigits digits = (valueOf digits, digits.length, []) := by
    have hstops : Stops [] := nofun
    have := readDigits_append hd hstops
    rwa [List.append_nil] at this
  cases h with
  | none => exact absurd rfl hne
  | plain he hd hdne =>
    obtain ⟨c, rest, rfl⟩ := List.exists_cons_of_ne_nil hdne
    obtain ⟨hminus, hplus⟩ := ne_sign_of_isDigit (hd c List.mem_cons_self)
    simp [readExponent, he, hminus, hplus, hread hd]
  | plus he hd hdne =>
    obtain ⟨c, rest, rfl⟩ := List.exists_cons_of_ne_nil hdne
    simp [readExponent, he, hread hd]
  | minus he hd hdne =>
    obtain ⟨c, rest, rfl⟩ := List.exists_cons_of_ne_nil hdne
    simp [readExponent, he, hread hd]

/-- The digits of a power after its sign. -/
theorem digits_of_power {t : List Char} {minus : Bool}
    (h : (match readDigits t with
      | (_, 0, _) => none
      | (value, _, rest) => some (if minus then -(value : Int) else value, rest)) =
        some (k, [])) :
    Digits t ∧ t ≠ [] ∧ k = if minus then -(valueOf t : Int) else valueOf t := by
  obtain ⟨w, r, rfl, hw, -, hread⟩ := readDigits_split t
  rw [hread] at h
  cases w with
  | nil => cases h
  | cons c w =>
    cases h
    rw [List.append_nil]
    exact ⟨hw, List.cons_ne_nil c w, rfl⟩

theorem power_of_readExponent (h : readExponent s = some (k, [])) : Power s k := by
  cases s with
  | nil => cases h
  | cons e rest =>
    unfold readExponent at h
    dsimp only at h
    split at h
    next he =>
      obtain ⟨hd, hne, rfl⟩ := digits_of_power h
      revert hd hne
      split
      next r => exact .minus he
      next r => exact .plus he
      next r _ _ => exact .plain he
    next => cases h

/-- The power that a text is as a whole. -/
def powerOf? (s : List Char) : Option Int :=
  if s = [] then some 0
  else match readExponent s with
    | some (k, []) => some k
    | _ => none

theorem powerOf?_eq_some_iff : powerOf? s = some k ↔ Power s k := by
  unfold powerOf?
  by_cases hs : s = []
  · subst hs
    rw [if_pos rfl]
    constructor
    · rintro ⟨⟩
      exact .none
    · rintro ⟨⟩
      rfl
  · rw [if_neg hs]
    constructor
    · intro h
      split at h
      next k' hread =>
        cases h
        exact power_of_readExponent hread
      next => cases h
    · intro h
      rw [readExponent_of_power h hs]

/-- A text is cut where its digits and its fraction end. -/
theorem numeral_split (s : List Char) : ∃ whole fraction digits tail,
    s = whole ++ (fraction ++ tail) ∧ Digits whole ∧ Fraction fraction digits ∧
      Stops (fraction ++ tail) ∧ Stops tail ∧ (fraction = [] → tail.head? ≠ some '.') := by
  obtain ⟨whole, rest, rfl, hwhole, hrest, -⟩ := readDigits_split s
  by_cases hpoint : rest.head? = some '.'
  · obtain ⟨r, rfl⟩ := List.head?_eq_some_iff.1 hpoint
    obtain ⟨digits, tail, rfl, hdigits, htail, -⟩ := readDigits_split r
    exact ⟨whole, _, digits, tail, rfl, hwhole, .point hdigits, hrest, htail, nofun⟩
  · exact ⟨whole, [], [], rest, rfl, hwhole, .none, hrest, hrest, fun _ => hpoint⟩

/-- The power is read behind the digits and the fraction. -/
theorem power_read (negative : Bool) (digits count : Nat) (tail : List Char) :
    (match tail with
      | [] => some ⟨negative, digits, -(count : Int), false⟩
      | rest => match readExponent rest with
        | some (e, []) => some ⟨negative, digits, e - count, false⟩
        | _ => none : Option Numeral) =
      (powerOf? tail).map fun k => ⟨negative, digits, k - count, false⟩ := by
  unfold powerOf?
  cases tail with
  | nil => simp
  | cons c rest =>
    rw [if_neg (List.cons_ne_nil c rest)]
    dsimp only
    cases readExponent (c :: rest) with
    | none => rfl
    | some p =>
      obtain ⟨k, rest⟩ := p
      cases rest <;> rfl

/-- What is read of a text that is cut so. -/
theorem parseUnsigned_append {whole fraction digits tail : List Char} (hwhole : Digits whole)
    (hfraction : Fraction fraction digits) (hstops : Stops (fraction ++ tail)) (htail : Stops tail)
    (hpoint : fraction = [] → tail.head? ≠ some '.') :
    parseUnsigned negative (whole ++ (fraction ++ tail)) =
      if whole.length + digits.length = 0 then none
      else (powerOf? tail).map fun k =>
        ⟨negative, valueOf (whole ++ digits), k - digits.length, false⟩ := by
  rw [← power_read, valueOf_append]
  unfold parseUnsigned
  rw [readDigits_append hwhole hstops]
  cases hfraction with
  | none =>
    rw [List.nil_append] at *
    dsimp only
    split
    next r _ => exact absurd rfl (hpoint rfl)
    next =>
      have hvalue :
          valueOf whole * Nat.pow 10 ([] : List Char).length + valueOf [] = valueOf whole :=
        Nat.mul_one _
      rewrite [hvalue]
      rfl
  | point hdigits =>
    rw [List.cons_append]
    dsimp only
    split
    next r h =>
      obtain rfl : digits ++ tail = r := (List.cons.inj h).2
      rewrite [readDigits_append hdigits htail]
      rfl
    next hne => exact absurd rfl (hne _)

/-- A numeral is read, and nothing else is. -/
theorem parseUnsigned_eq_some_iff :
    parseUnsigned negative s = some n ↔
      ∃ value power, IsNumeral s value power ∧ n = ⟨negative, value, power, false⟩ := by
  constructor
  · intro h
    obtain ⟨whole, fraction, digits, tail, rfl, hwhole, hfraction, hstops, htail, hpoint⟩ :=
      numeral_split s
    rw [parseUnsigned_append hwhole hfraction hstops htail hpoint] at h
    split at h
    next => cases h
    next hne =>
      obtain ⟨k, hk, rfl⟩ := Option.map_eq_some_iff.1 h
      refine ⟨_, _, .intro hwhole hfraction (powerOf?_eq_some_iff.1 hk) fun hnil => hne ?_, rfl⟩
      rw [← List.length_append, hnil]
      rfl
  · rintro ⟨_, _, ⟨hwhole, hfraction, hpower, hne⟩, rfl⟩
    rw [← List.length_pos_iff, List.length_append] at hne
    rw [parseUnsigned_append hwhole hfraction (hfraction.stops hpower.stops) hpower.stops
      fun _ => hpower.head?_ne, if_neg (Nat.ne_of_gt hne), powerOf?_eq_some_iff.2 hpower]
    rfl

/-! ## Literals -/

/-- A word for infinity or for an undefined value in any case, or a numeral; with its value, which
for a numeral is the double nearest to it. -/
inductive IsMagnitude (s : List Char) : Float → Prop
  | infinity (h : s.map Char.toLower = "inf".toList ∨ s.map Char.toLower = "infinity".toList) :
      IsMagnitude s (Float.ofBits 0x7ff0000000000000)
  | undefined (h : s.map Char.toLower = "nan".toList) :
      IsMagnitude s (Float.ofBits 0x7ff8000000000000)
  | numeral {value : Nat} {power : Int} (h : IsNumeral s value power) :
      IsMagnitude s (Float.ofScientific value (power < 0) power.natAbs)

/-- A magnitude after an optional sign, with its value. -/
inductive IsFloat : List Char → Float → Prop
  | plain {s : List Char} {x : Float} (h : IsMagnitude s x) : IsFloat s x
  | plus {s : List Char} {x : Float} (h : IsMagnitude s x) : IsFloat ('+' :: s) x
  | minus {s : List Char} {x : Float} (h : IsMagnitude s x) : IsFloat ('-' :: s) (-x)

/-- A numeral begins with a digit or a point. -/
theorem IsNumeral.head (h : IsNumeral s value power) :
    ∃ c rest, s = c :: rest ∧ (c.isDigit = true ∨ c = '.') := by
  obtain @⟨whole, fraction, digits, _, _, hwhole, hfraction, -, hne⟩ := h
  cases whole with
  | cons c rest => exact ⟨c, _, rfl, .inl (hwhole c List.mem_cons_self)⟩
  | nil =>
    cases hfraction with
    | none => exact absurd rfl hne
    | point _ => exact ⟨'.', _, rfl, .inr rfl⟩

theorem toLower_of_isDigit {c : Char} (h : c.isDigit = true ∨ c = '.') : c.toLower = c := by
  rcases h with h | rfl
  · have hlow : c.val ≤ 57 := by simpa using (Bool.and_eq_true_iff.1 h).2
    unfold Char.toLower
    split
    next hupper =>
      exact absurd (UInt32.le_trans hupper.1 hlow) (by decide)
    next => rfl
  · rfl

theorem parseWord_of_numeral (h : IsNumeral s value power) : parseWord s = none := by
  obtain ⟨c, rest, rfl, hc⟩ := h.head
  have hne {d : Char} {word : List Char} (hd : d.isDigit = false ∧ d ≠ '.') :
      (c :: rest).map Char.toLower ≠ d :: word := by
    intro heq
    obtain ⟨rfl, -⟩ := List.cons.inj heq
    rw [toLower_of_isDigit hc] at hd
    rcases hc with hc | hc
    · rw [hd.1] at hc
      cases hc
    · exact hd.2 hc
  have hinf : ¬ ((c :: rest).map Char.toLower = "inf".toList ∨
      (c :: rest).map Char.toLower = "infinity".toList) := by
    rintro (h | h)
    · exact hne (by decide) h
    · exact hne (by decide) h
  have hnan : ¬ (c :: rest).map Char.toLower = "nan".toList := hne (by decide)
  rw [parseWord, if_neg hinf, if_neg hnan]

/-- What is read after the sign. -/
theorem magnitude_read (negative : Bool) (s : List Char) (x : Float) :
    (match parseWord s with
      | some x => .ok (if negative then -x else x)
      | none => match parseUnsigned negative s with
        | some n => .ok n.toFloat
        | none => .error .invalid : Except FloatError Float) = .ok x ↔
      ∃ y, IsMagnitude s y ∧ x = if negative then -y else y := by
  constructor
  · intro h
    split at h
    next y hword =>
      refine ⟨y, ?_, (Except.ok.inj h).symm⟩
      unfold parseWord at hword
      dsimp only at hword
      split at hword
      next hinf =>
        cases hword
        exact .infinity hinf
      next =>
        split at hword
        next hnan =>
          cases hword
          exact .undefined hnan
        next => cases hword
    next =>
      split at h
      next n hn =>
        obtain ⟨value, power, hnumeral, rfl⟩ := parseUnsigned_eq_some_iff.1 hn
        exact ⟨_, .numeral hnumeral, (Except.ok.inj h).symm⟩
      next => cases h
  · rintro ⟨y, h, rfl⟩
    cases h with
    | infinity h => rw [parseWord, if_pos h]
    | undefined h =>
      have hinf : ¬ (s.map Char.toLower = "inf".toList ∨
          s.map Char.toLower = "infinity".toList) := by
        rw [h]
        decide
      rw [parseWord, if_neg hinf, if_pos h]
    | numeral h =>
      rw [parseWord_of_numeral h, parseUnsigned_eq_some_iff.2 ⟨_, _, h, rfl⟩]
      rfl

/-- Neither words nor numerals begin with a sign. -/
theorem IsMagnitude.head (h : IsMagnitude s x) :
    ∃ c rest, s = c :: rest ∧ c ≠ '-' ∧ c ≠ '+' := by
  have hword {d : Char} {word : List Char} (hd : d ≠ '-' ∧ d ≠ '+')
      (h : s.map Char.toLower = d :: word) : ∃ c rest, s = c :: rest ∧ c ≠ '-' ∧ c ≠ '+' := by
    obtain ⟨c, rest, rfl, rfl, -⟩ := List.map_eq_cons_iff.1 h
    refine ⟨c, rest, rfl, ?_, ?_⟩
    · rintro rfl
      exact hd.1 rfl
    · rintro rfl
      exact hd.2 rfl
  cases h with
  | infinity h =>
    rcases h with h | h
    · exact hword (by decide) h
    · exact hword (by decide) h
  | undefined h => exact hword (by decide) h
  | numeral h =>
    obtain ⟨c, rest, rfl, hc⟩ := h.head
    refine ⟨c, rest, rfl, ?_⟩
    rcases hc with hc | rfl
    · exact ne_sign_of_isDigit hc
    · decide

/-- The texts that are read, and the values they are read as. -/
theorem parseFloat_eq_ok_iff {text : String} : parseFloat text = .ok x ↔ IsFloat text.toList x := by
  unfold parseFloat
  cases htext : text.toList with
  | nil =>
    constructor
    · nofun
    · intro h
      cases h with
      | plain h =>
        obtain ⟨c, rest, hlist, -⟩ := h.head
        cases hlist
  | cons c rest =>
    dsimp only
    by_cases hminus : c = '-'
    · subst hminus
      rw [if_pos rfl]
      refine (magnitude_read true rest x).trans ⟨?_, fun h => ?_⟩
      · rintro ⟨y, h, rfl⟩
        exact .minus h
      cases h with
      | plain h =>
        obtain ⟨c, r, hlist, hne, -⟩ := h.head
        exact absurd (List.cons.inj hlist).1.symm hne
      | minus h => exact ⟨_, h, rfl⟩
    by_cases hplus : c = '+'
    · subst hplus
      rw [if_neg hminus, if_pos rfl]
      refine (magnitude_read false rest x).trans ⟨?_, fun h => ?_⟩
      · rintro ⟨y, h, rfl⟩
        exact .plus h
      cases h with
      | plain h =>
        obtain ⟨c, r, hlist, -, hne⟩ := h.head
        exact absurd (List.cons.inj hlist).1.symm hne
      | plus h => exact ⟨_, h, rfl⟩
    · rw [if_neg hminus, if_neg hplus]
      refine (magnitude_read false (c :: rest) x).trans ⟨?_, fun h => ?_⟩
      · rintro ⟨y, h, rfl⟩
        exact .plain h
      cases h with
      | plain h => exact ⟨_, h, rfl⟩
      | plus h => exact absurd rfl hplus
      | minus h => exact absurd rfl hminus

/-- Why a text is not read. -/
theorem parseFloat_error {text : String} {e : FloatError} (h : parseFloat text = .error e) :
    e = if text = "" then .empty else .invalid := by
  unfold parseFloat at h
  split at h
  next hnil =>
    cases h
    rw [if_pos (String.toList_eq_nil_iff.1 hnil)]
  next hlist =>
    have hne : text ≠ "" := by
      rintro rfl
      cases hlist
    rw [if_neg hne]
    dsimp only at h
    split at h
    next => cases h
    next =>
      split at h
      next => cases h
      next =>
        cases h
        rfl

end GpuCluster.Decimal
